import Mathlib.Data.Multiset.AddSub
import Mathlib.Tactic.Common

/-!
# `LocHal.Lib.PriorityQueue`: what a priority queue with removal answers

The queue holds a multiset of objects. A relation `le` says that one object ranks no higher
than another one; it is a total preorder, so that objects of equal rank are distinct objects.

`Answers le held op answer held'` is the specification: the operation `op` on a queue that holds
`held` may answer `answer`, and the queue holds `held'` after it. Which of several tops is
answered is open, and so is nothing else.

`after` reads what the queue holds off the operation and the answer alone. It is the ghost side
of a run: what was pushed and was neither popped nor removed.
-/

set_option autoImplicit false

namespace PriorityQueue

variable {α : Type*}

/-- A preorder that compares any two objects. -/
structure TotalPreorder (le : α → α → Prop) : Prop where
  total : ∀ a b, le a b ∨ le b a
  trans : ∀ a b c, le a b → le b c → le a c

theorem TotalPreorder.refl {le : α → α → Prop} (h : TotalPreorder le) (a : α) : le a a :=
  (h.total a a).elim id id

/-- The object that does not rank lower ranks higher. -/
theorem TotalPreorder.le_of_not_le {le : α → α → Prop} (h : TotalPreorder le) {a b : α}
    (hab : ¬ le a b) : le b a :=
  (h.total a b).resolve_left hab

/-- A held object that ranks at least as high as every held object. -/
def IsTop (le : α → α → Prop) (held : Multiset α) (x : α) : Prop :=
  x ∈ held ∧ ∀ y ∈ held, le y x

/-- The operations. -/
inductive Op (α : Type*) where
  | push (x : α)
  | pop
  | peek
  | remove (x : α)
  deriving DecidableEq, Repr

/-- What an operation may answer, and what the queue holds after it. -/
inductive Answers (le : α → α → Prop) : Multiset α → Op α → Option α → Multiset α → Prop
  | push (held : Multiset α) (x : α) : Answers le held (.push x) none (x ::ₘ held)
  | popEmpty : Answers le 0 .pop none 0
  | pop (held : Multiset α) (x : α) (htop : IsTop le (x ::ₘ held) x) :
      Answers le (x ::ₘ held) .pop (some x) held
  | peekEmpty : Answers le 0 .peek none 0
  | peek (held : Multiset α) (x : α) (htop : IsTop le held x) : Answers le held .peek (some x) held
  | remove (held : Multiset α) (x : α) : Answers le (x ::ₘ held) (.remove x) (some x) held
  | removeAbsent (held : Multiset α) (x : α) (habsent : x ∉ held) :
      Answers le held (.remove x) none held

/-- What the queue holds after an operation, read off the operation and the answer. -/
def after [DecidableEq α] (held : Multiset α) : Op α → Option α → Multiset α
  | .push x, _ => x ::ₘ held
  | .peek, _ => held
  | _, none => held
  | _, some x => held.erase x

/-- A specified answer determines what is held. -/
theorem Answers.eq_after [DecidableEq α] {le : α → α → Prop} {held held' : Multiset α} {op : Op α}
    {answer : Option α} (h : Answers le held op answer held') : held' = after held op answer := by
  cases h with
  | push held x => rfl
  | popEmpty => rfl
  | pop held x htop => exact (Multiset.erase_cons_head x held').symm
  | peekEmpty => rfl
  | peek held x htop => rfl
  | remove held x => exact (Multiset.erase_cons_head x held').symm
  | removeAbsent held x habsent => rfl

end PriorityQueue
