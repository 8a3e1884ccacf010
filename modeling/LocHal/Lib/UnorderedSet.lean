import Mathlib.Data.List.Nodup

/-!
# `LocHal.Lib.UnorderedSet`: sets that are iterated in some order

An `UnorderedSet` lists its elements in an order that nothing depends on, each of them once. A
loop over the set is a fold over that list. The order is not part of the meaning: the results
about a set are about its membership.

Two rules read the effect of a loop off the effect of its body.

* `foldl_and_iff`: the body keeps `P` exactly when `Q` holds of the element, so the loop keeps
  `P` exactly when `Q` holds of every element.
* `foldl_or_iff`: the body establishes `P` when `Q` holds of the element, so the loop does when
  `Q` holds of some element.
-/

set_option autoImplicit false

/-- A set with the order in which a loop visits its elements. -/
structure UnorderedSet (α : Type*) where
  toList : List α
  nodup : toList.Nodup
  deriving DecidableEq

namespace UnorderedSet

variable {α β : Type*}

instance : Membership α (UnorderedSet α) where
  mem s a := a ∈ s.toList

instance : EmptyCollection (UnorderedSet α) where
  emptyCollection := ⟨[], List.nodup_nil⟩

instance (a : α) [DecidableEq α] (s : UnorderedSet α) : Decidable (a ∈ s) :=
  inferInstanceAs (Decidable (a ∈ s.toList))

theorem mem_iff {a : α} {s : UnorderedSet α} : a ∈ s ↔ a ∈ s.toList := Iff.rfl

@[simp] theorem not_mem_empty (a : α) : a ∉ (∅ : UnorderedSet α) := List.not_mem_nil

/-- Whether the set has no element. -/
def isEmpty (s : UnorderedSet α) : Bool := s.toList.isEmpty

theorem isEmpty_iff {s : UnorderedSet α} : s.isEmpty = true ↔ ∀ a, a ∉ s := by
  show s.toList.isEmpty = true ↔ ∀ a, a ∉ s.toList
  rw [List.isEmpty_iff, List.eq_nil_iff_forall_not_mem]

section Ops
variable [DecidableEq α]

/-- The set with one more element. -/
def insert (s : UnorderedSet α) (a : α) : UnorderedSet α :=
  ⟨s.toList.insert a, s.nodup.insert⟩

/-- The set without an element. -/
def erase (s : UnorderedSet α) (a : α) : UnorderedSet α :=
  ⟨s.toList.erase a, s.nodup.erase a⟩

@[simp] theorem mem_insert {a b : α} {s : UnorderedSet α} : b ∈ s.insert a ↔ b = a ∨ b ∈ s :=
  List.mem_insert_iff

@[simp] theorem mem_erase {a b : α} {s : UnorderedSet α} : b ∈ s.erase a ↔ b ≠ a ∧ b ∈ s :=
  s.nodup.mem_erase_iff

end Ops

/-- One element. -/
def singleton (a : α) : UnorderedSet α := ⟨[a], List.nodup_singleton a⟩

@[simp] theorem mem_singleton {a b : α} : b ∈ singleton a ↔ b = a := List.mem_singleton

/-! ### Loops -/

section Loops
variable {f : β → α → β} {P : β → Prop} {Q : α → Prop}

/-- The body keeps `P` exactly when `Q` holds of the element. -/
theorem foldl_and_iff (hbody : ∀ b a, P (f b a) ↔ P b ∧ Q a) :
    ∀ (l : List α) (b : β), P (l.foldl f b) ↔ P b ∧ ∀ a ∈ l, Q a := by
  intro l
  induction l with
  | nil => intro b; simp
  | cons a l ih =>
      intro b
      rw [List.foldl_cons, ih, hbody, and_assoc, List.forall_mem_cons]

/-- The body establishes `P` when `Q` holds of the element. -/
theorem foldl_or_iff (hbody : ∀ b a, P (f b a) ↔ P b ∨ Q a) :
    ∀ (l : List α) (b : β), P (l.foldl f b) ↔ P b ∨ ∃ a ∈ l, Q a := by
  intro l
  induction l with
  | nil => intro b; simp
  | cons a l ih =>
      intro b
      rw [List.foldl_cons, ih, hbody, or_assoc]
      simp only [List.mem_cons, exists_eq_or_imp]

/-- A loop that inserts every element. -/
theorem mem_foldl_insert [DecidableEq α] {s : UnorderedSet α} {a : α} (l : List α) :
    a ∈ l.foldl insert s ↔ a ∈ s ∨ a ∈ l := by
  have hbody : ∀ (s : UnorderedSet α) b, a ∈ s.insert b ↔ a ∈ s ∨ a = b := by
    intro s b
    rw [mem_insert, or_comm]
  rw [foldl_or_iff (P := fun s => a ∈ s) hbody]
  simp

end Loops

end UnorderedSet
