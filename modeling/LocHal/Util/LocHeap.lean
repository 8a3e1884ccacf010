import Mathlib.Data.Multiset.AddSub
import Mathlib.Tactic.Common

/-!
# `LocHal.Util.LocHeap`: the rank-sorted binary tree of `LocHeap.cpp`

`LocHeapNode` is the tree of `LocHeap.cpp`, with `null` for the `NULL` pointer and with the
stored subtree size `mSize`. The heap stores addresses of rankable objects: `α` is the type of
the addresses, so equality on `α` is the pointer comparison of `LocHeapNode::remove`, and
`ranks` is the virtual method `LocRankable::ranks`. Nothing is assumed about `ranks` here.

The C++ `push`, `pop` and `remove` keep the node objects in place and swap their data. In the
model a swap is a rebuilt node with the other datum. `pop` swaps the top datum down to a leaf,
so the recursion `LocHeapNode.popSwapped` carries that datum along.

The lemmas say what each operation does to the top of the heap and to its content:

* `peek_push`, `elements_push`: `push` adds the new object, which is the top if and only if it
  outranks the old top.
* `peek_of_pop`, `elements_pop`: `pop` takes out the top.
* `eq_of_remove`, `elements_remove`: `remove` takes out the object it was asked for.
* `peek_of_remove`: `remove` of an object other than the top keeps the top.
-/

set_option autoImplicit false

namespace LocHal.Util

/-- `LocHeapNode`: the subtree size, the two links and the rankable object. -/
inductive LocHeapNode (α : Type) where
  | null
  | node (mSize : Nat) (mLeft mRight : LocHeapNode α) (mData : α)
  deriving DecidableEq, Repr

namespace LocHeapNode

variable {α : Type}

/-- `mSize` of a node; `0` stands for the missing node. -/
def getSize : LocHeapNode α → Nat
  | null => 0
  | node mSize _ _ _ => mSize

section
variable (ranks : α → α → Int)

/-- `LocRankable::outRanks`. -/
def outRanks (a b : α) : Bool := decide (ranks a b > 0)

/-- `LocHeapNode::push`, the insertion of a fresh node that holds `data`. The `null` case is
the assignment of the new node to the empty link (`mLeft`, `mRight` or `LocHeap::mTree`). -/
def push : LocHeapNode α → α → LocHeapNode α
  | null, data => node 1 null null data
  | node mSize mLeft mRight mData, data =>
      -- ensure the current node ranks higher than the incoming one
      let top := if outRanks ranks data mData then data else mData
      let incoming := if outRanks ranks data mData then mData else data
      match mLeft, mRight with
      | null, _ => node (mSize + 1) (node 1 null null incoming) mRight top
      | _, null => node (mSize + 1) mLeft (node 1 null null incoming) top
      | _, _ =>
          if mLeft.getSize ≤ mRight.getSize then
            node (mSize + 1) (push mLeft incoming) mRight top
          else
            node (mSize + 1) mLeft (push mRight incoming) top

/-- `LocHeapNode::pop` of a subtree whose own datum was swapped with `data`, the datum that
leaves the tree. -/
def popSwapped (data : α) : LocHeapNode α → LocHeapNode α
  | null => null
  | node _ null null _ => null
  | node mSize null (node s l r d) _ =>
      node (mSize - 1) null (popSwapped data (node s l r d)) d
  | node mSize (node s l r d) null _ =>
      node (mSize - 1) (popSwapped data (node s l r d)) null d
  | node mSize (node s l r d) (node s' l' r' d') _ =>
      if outRanks ranks d d' then
        node (mSize - 1) (popSwapped data (node s l r d)) (node s' l' r' d') d
      else
        node (mSize - 1) (node s l r d) (popSwapped data (node s' l' r' d')) d'

/-- `LocHeapNode::pop`: the datum of the top and the remaining tree. -/
def pop : LocHeapNode α → Option (α × LocHeapNode α)
  | null => none
  | node mSize mLeft mRight mData =>
      some (mData, popSwapped ranks mData (node mSize mLeft mRight mData))

/-- `LocHeapNode::remove`: the search for the object `data` by address, left subtree first. The
subtrees are skipped when `data` outranks the node. -/
def remove [DecidableEq α] (data : α) : LocHeapNode α → Option (α × LocHeapNode α)
  | null => none
  | node mSize mLeft mRight mData =>
      if data = mData then
        pop ranks (node mSize mLeft mRight mData)
      else if outRanks ranks data mData then
        none
      else
        match remove data mLeft with
        | some (removed, mLeft') => some (removed, node (mSize - 1) mLeft' mRight mData)
        | none =>
            match remove data mRight with
            | some (removed, mRight') => some (removed, node (mSize - 1) mLeft mRight' mData)
            | none => none

end

/-- `LocHeap::peek`: the datum of the top. -/
def peek : LocHeapNode α → Option α
  | null => none
  | node _ _ _ mData => some mData

@[simp] theorem peek_null : (null : LocHeapNode α).peek = none := rfl

@[simp] theorem peek_node (s : Nat) (l r : LocHeapNode α) (d : α) :
    (node s l r d).peek = some d := rfl

/-- The objects in the tree. -/
def elements : LocHeapNode α → Multiset α
  | null => 0
  | node _ mLeft mRight mData => mData ::ₘ (mLeft.elements + mRight.elements)

@[simp] theorem elements_null : (null : LocHeapNode α).elements = 0 := rfl

@[simp] theorem elements_node (s : Nat) (l r : LocHeapNode α) (d : α) :
    (node s l r d).elements = d ::ₘ (l.elements + r.elements) := rfl

/-- The top is one of the objects. -/
theorem mem_elements_of_peek {t : LocHeapNode α} {d : α} (h : t.peek = some d) :
    d ∈ t.elements := by
  cases t with
  | null => cases h
  | node s l r e =>
      cases h
      exact Multiset.mem_cons_self _ _

variable {ranks : α → α → Int}

/-- The top is missing exactly in the empty tree. -/
theorem peek_eq_none {t : LocHeapNode α} : t.peek = none ↔ t = null := by
  cases t with
  | null => simp
  | node s l r d => simp

/-- The top after `push`: the new object if it outranks the old top, and the old top
otherwise. -/
theorem peek_push (ranks : α → α → Int) (t : LocHeapNode α) (x : α) :
    (push ranks t x).peek
      = match t.peek with
        | none => some x
        | some d => some (if outRanks ranks x d then x else d) := by
  cases t with
  | null => rfl
  | node s l r d =>
      rw [push.eq_def]
      dsimp only [peek_node]
      split
      · rfl
      · rfl
      · split <;> rfl

/-- `pop` returns the top. -/
theorem peek_of_pop {t t' : LocHeapNode α} {d : α} (h : pop ranks t = some (d, t')) :
    t.peek = some d := by
  cases t with
  | null => cases h
  | node s l r e =>
      cases h
      rfl

/-- `pop` returns nothing exactly for the empty tree. -/
theorem pop_eq_none {t : LocHeapNode α} : pop ranks t = none ↔ t = null := by
  cases t with
  | null => simp [pop]
  | node s l r d => simp [pop]

/-- `push` adds the new object. The induction is on the tree; the object that goes down is the
new one or the old top. -/
theorem elements_push : ∀ (t : LocHeapNode α) (x : α),
    (push ranks t x).elements = x ::ₘ t.elements := by
  intro t
  induction t with
  | null => intro x; rfl
  | node s l r d ihl ihr =>
      intro x
      have hswap : (if outRanks ranks x d then x else d) ::ₘ
          (if outRanks ranks x d then d else x) ::ₘ (l.elements + r.elements)
            = x ::ₘ d ::ₘ (l.elements + r.elements) := by
        cases outRanks ranks x d with
        | false => exact Multiset.cons_swap _ _ _
        | true => rfl
      rw [push.eq_def]
      dsimp only
      rw [elements_node s, ← hswap]
      split
      · simp
      · rw [elements_node, elements_node, elements_null, Multiset.add_cons]
        simp
      · split
        · rw [elements_node, ihl, Multiset.cons_add]
        · rw [elements_node, ihr, Multiset.add_cons]

/-- Popping a nonempty subtree takes out the datum that it had before the swap. -/
theorem elements_popSwapped (x : α) : ∀ (t : LocHeapNode α) (s : Nat) (l r : LocHeapNode α)
    (d : α), t = node s l r d → (popSwapped ranks x t).elements = l.elements + r.elements := by
  intro t
  induction t using popSwapped.induct ranks with
  | case1 => intro s l r d h; cases h
  | case2 => intro s l r d h; cases h; rfl
  | case3 n s' l' r' d' e ih =>
      intro s l r d h
      cases h
      rw [popSwapped, elements_node, ih s' l' r' d' rfl]
      simp
  | case4 n s' l' r' d' e ih =>
      intro s l r d h
      cases h
      rw [popSwapped, elements_node, ih s' l' r' d' rfl]
      simp
  | case5 n s' l' r' d' s'' l'' r'' d'' e hout ih =>
      intro s l r d h
      cases h
      rw [popSwapped, if_pos hout, elements_node, ih s' l' r' d' rfl, elements_node s',
        Multiset.cons_add]
  | case6 n s' l' r' d' s'' l'' r'' d'' e hout ih =>
      intro s l r d h
      cases h
      rw [popSwapped, if_neg hout, elements_node, ih s'' l'' r'' d'' rfl, elements_node s'',
        Multiset.add_cons]

/-- `pop` takes out the object that it returns. -/
theorem elements_pop {t t' : LocHeapNode α} {d : α} (h : pop ranks t = some (d, t')) :
    t.elements = d ::ₘ t'.elements := by
  cases t with
  | null => cases h
  | node s l r e =>
      cases h
      rw [elements_node, elements_popSwapped d _ s l r d rfl]

variable [DecidableEq α]

/-- What a removal can be: the top is popped, or the object is removed from a subtree. -/
inductive Removes (ranks : α → α → Int) (x y : α) : LocHeapNode α → LocHeapNode α → Prop
  | top {s : Nat} {l r t' : LocHeapNode α} (h : pop ranks (node s l r x) = some (y, t')) :
      Removes ranks x y (node s l r x) t'
  | left {s : Nat} {l l' r : LocHeapNode α} {d : α}
      (h : remove ranks x l = some (y, l')) (hremoves : Removes ranks x y l l') :
      Removes ranks x y (node s l r d) (node (s - 1) l' r d)
  | right {s : Nat} {l r r' : LocHeapNode α} {d : α}
      (h : remove ranks x r = some (y, r')) (hremoves : Removes ranks x y r r') :
      Removes ranks x y (node s l r d) (node (s - 1) l r' d)

/-- The induction is on the tree; the two recursive calls are the two subtrees. -/
theorem removes_of_remove {x y : α} {t t' : LocHeapNode α}
    (h : remove ranks x t = some (y, t')) : Removes ranks x y t t' := by
  induction t generalizing t' with
  | null => cases h
  | node s l r d ihl ihr =>
      rw [remove] at h
      split at h
      · rename_i hxd
        subst hxd
        exact .top h
      · split at h
        · cases h
        · split at h
          · rename_i hl
            cases h
            exact .left hl (ihl hl)
          · split at h
            · rename_i hr
              cases h
              exact .right hr (ihr hr)
            · cases h

/-- `remove` takes out the object that it returns. -/
theorem elements_remove {x y : α} : ∀ {t t' : LocHeapNode α},
    remove ranks x t = some (y, t') → t.elements = y ::ₘ t'.elements := by
  intro t t' h
  induction removes_of_remove h with
  | top hpop => exact elements_pop hpop
  | left hl _ ih =>
      rw [elements_node, elements_node, ih hl, Multiset.cons_add, Multiset.cons_swap]
  | right hr _ ih =>
      rw [elements_node, elements_node, ih hr, Multiset.add_cons, Multiset.cons_swap]

/-- `remove` returns the object that it was asked for. -/
theorem eq_of_remove {x y : α} : ∀ {t t' : LocHeapNode α},
    remove ranks x t = some (y, t') → y = x := by
  intro t t' h
  induction removes_of_remove h with
  | top hpop =>
      cases hpop
      rfl
  | left hl _ ih => exact ih hl
  | right hr _ ih => exact ih hr

/-- `remove` of an object other than the top keeps the top. -/
theorem peek_of_remove {x y : α} {t t' : LocHeapNode α}
    (h : remove ranks x t = some (y, t')) (hx : t.peek ≠ some x) : t'.peek = t.peek := by
  cases removes_of_remove h with
  | top => exact absurd (peek_node _ _ _ x) hx
  | left => rfl
  | right => rfl

end LocHeapNode

end LocHal.Util
