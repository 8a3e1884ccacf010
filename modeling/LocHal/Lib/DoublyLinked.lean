import Mathlib.Data.List.Induction
import LocHal.Lib.CellHeap

/-!
# `LocHal.Lib.DoublyLinked`: doubly linked lists in a heap of cells

A `Layout` says where a cell has its two links and its datum. `Seg L h before cells after` is a
segment of a list: the addresses of `cells` are live, hold the data of `cells` and are linked with
each other in both directions; the first one links back to `before` and the last one on to `after`.

* `seg_append` cuts a segment in two, so that an operation is proved where it takes place.
* `Seg.setNext` and `Seg.setPrev` change the link at an end.
* `Seg.forward` and `Seg.backward` follow one kind of link (`Chain`): the backward chain of a list
  is its forward chain reversed.

An operation changes one or two links of one cell. `Seg.frame` and `Seg.set_of_not_mem` carry the
other segments over, `Seg.new` and `Seg.delete` do so for an allocation and a deletion. What is left
for each operation is to cut the list at the cell, to change the ends that meet there, and to put it
together again.
-/

set_option autoImplicit false

namespace LocHal.CellHeap

variable {α β : Type*}

/-- The links and the datum of a cell. -/
structure Layout (α β : Type*) where
  next : α → Option Ptr
  prev : α → Option Ptr
  datum : α → β

/-- The links from `start` on lead through `ps` to the end. -/
def Chain (h : Heap α) (link : α → Option Ptr) : Option Ptr → List Ptr → Prop
  | start, [] => start = none
  | start, p :: ps => start = some p ∧ ∃ v, h.read p = some v ∧ Chain h link (link v) ps

/-- The address that a link into the cells has. -/
def first : List (Ptr × β) → Option Ptr → Option Ptr
  | [], after => after
  | (p, _) :: _, _ => some p

/-- The address that a link back into the cells has. -/
def last : Option Ptr → List (Ptr × β) → Option Ptr
  | before, [] => before
  | _, (p, _) :: cells => last (some p) cells

/-- The cell at `p` between `before` and `after`. -/
def IsCell (L : Layout α β) (h : Heap α) (before : Option Ptr) (c : Ptr × β)
    (after : Option Ptr) : Prop :=
  ∃ v, h.read c.1 = some v ∧ L.prev v = before ∧ L.next v = after ∧ L.datum v = c.2

/-- A segment between `before` and `after`. -/
def Seg (L : Layout α β) (h : Heap α) : Option Ptr → List (Ptr × β) → Option Ptr → Prop
  | _, [], _ => True
  | before, c :: cells, after =>
      IsCell L h before c (first cells after) ∧ Seg L h (some c.1) cells after

variable {L : Layout α β} {h h' : Heap α} {before after before' after' : Option Ptr}
  {cells cells' : List (Ptr × β)} {c : Ptr × β} {p : Ptr} {v w : α}

/-! ### The ends -/

@[simp] theorem first_append :
    first (cells ++ cells') after = first cells (first cells' after) := by
  cases cells <;> rfl

@[simp] theorem last_append : last before (cells ++ cells') = last (last before cells) cells' := by
  induction cells generalizing before with
  | nil => rfl
  | cons c cells ih => exact ih

/-- The cells that a link leads to. -/
theorem eq_cons_of_first (hp : first cells none = some p) : ∃ b rest, cells = (p, b) :: rest := by
  cases cells with
  | nil => cases hp
  | cons c rest =>
      cases hp
      exact ⟨c.2, rest, rfl⟩

theorem eq_nil_of_first (hp : first cells none = none) : cells = [] := by
  cases cells with
  | nil => rfl
  | cons c rest => cases hp

/-- The cells that a link leads back to. -/
theorem eq_concat_of_last (hp : last none cells = some p) : ∃ b rest, cells = rest ++ [(p, b)] := by
  rcases List.eq_nil_or_concat cells with rfl | ⟨rest, c, rfl⟩
  · cases hp
  · rw [List.concat_eq_append, last_append] at hp
    cases hp
    exact ⟨c.2, rest, List.concat_eq_append⟩

theorem eq_nil_of_last (hp : last none cells = none) : cells = [] := by
  rcases List.eq_nil_or_concat cells with rfl | ⟨rest, c, rfl⟩
  · rfl
  · rw [List.concat_eq_append, last_append] at hp
    cases hp

/-! ### Segments -/

theorem seg_cons : Seg L h before (c :: cells) after ↔
    IsCell L h before c (first cells after) ∧ Seg L h (some c.1) cells after := Iff.rfl

/-- A segment is two segments, linked with each other. -/
theorem seg_append : Seg L h before (cells ++ cells') after ↔
    Seg L h before cells (first cells' after) ∧ Seg L h (last before cells) cells' after := by
  induction cells generalizing before with
  | nil => exact ⟨fun hs => ⟨trivial, hs⟩, fun hs => hs.2⟩
  | cons c cells ih =>
      rw [List.cons_append, seg_cons, seg_cons, ih, first_append, and_assoc]
      rfl

/-- The addresses of a segment are live. -/
theorem Seg.read_of_mem (hs : Seg L h before cells after) (hp : p ∈ cells.map Prod.fst) :
    ∃ v, h.read p = some v := by
  induction cells generalizing before with
  | nil => cases hp
  | cons c cells ih =>
      obtain ⟨⟨v, hv, -⟩, hrest⟩ := hs
      rcases List.mem_cons.mp hp with rfl | hp
      · exact ⟨v, hv⟩
      · exact ih hrest hp

/-- A segment is a segment of every heap that reads the same at its addresses. -/
theorem Seg.frame (hs : Seg L h before cells after)
    (hread : ∀ q ∈ cells.map Prod.fst, h'.read q = h.read q) : Seg L h' before cells after := by
  induction cells generalizing before with
  | nil => exact trivial
  | cons c cells ih =>
      obtain ⟨⟨v, hv, hcell⟩, hrest⟩ := hs
      refine ⟨⟨v, ?_, hcell⟩, ih hrest fun q hq => hread q (List.mem_cons_of_mem _ hq)⟩
      rw [hread c.1 List.mem_cons_self, hv]

/-- An assignment to a cell outside. -/
theorem Seg.set_of_not_mem (hs : Seg L h before cells after) (hp : p ∉ cells.map Prod.fst)
    {c : Cell α} (hc : c.deletes ≤ 1) : Seg L (h.set p c hc) before cells after :=
  hs.frame fun _ hq => Heap.read_set_of_ne hc fun heq => hp (heq ▸ hq)

/-- An allocation. -/
theorem Seg.new (hs : Seg L h before cells after) (v : α) :
    Seg L (h.new v).1 before cells after := by
  refine hs.frame fun q hq => Heap.read_new_of_ne v fun heq => ?_
  obtain ⟨w, hw⟩ := hs.read_of_mem hq
  rw [heq, Heap.read_new_fresh] at hw
  cases hw

/-- An allocation takes no address of a segment. -/
theorem Seg.not_mem_new (hs : Seg L h before cells after) (v : α) :
    (h.new v).2 ∉ cells.map Prod.fst := by
  intro hmem
  obtain ⟨w, hw⟩ := hs.read_of_mem hmem
  rw [Heap.read_new_fresh] at hw
  cases hw

/-- The deletion of a cell outside. -/
theorem Seg.delete (hs : Seg L h before cells after) (hdel : h.delete p = some h')
    (hp : p ∉ cells.map Prod.fst) : Seg L h' before cells after :=
  hs.frame fun _ hq => Heap.read_of_delete_of_ne hdel fun heq => hp (heq ▸ hq)

/-- The first cell links back to another address. -/
theorem Seg.setPrev (hs : Seg L h before cells after) (hnodup : (cells.map Prod.fst).Nodup)
    (hfirst : first cells none = some p) (hread : h.read p = some v)
    (hprev : L.prev w = before') (hnext : L.next w = L.next v) (hdatum : L.datum w = L.datum v) :
    Seg L (h.set p ⟨w, 0⟩ (Nat.zero_le 1)) before' cells after := by
  obtain ⟨b, rest, rfl⟩ := eq_cons_of_first hfirst
  obtain ⟨⟨v', hv', -, hcell⟩, hrest⟩ := hs
  obtain rfl := Option.some.inj (hread.symm.trans hv')
  have hp : p ∉ rest.map Prod.fst := (List.nodup_cons.mp hnodup).1
  refine ⟨⟨w, ?_, hprev, hnext.trans hcell.1, hdatum.trans hcell.2⟩, hrest.set_of_not_mem hp _⟩
  rw [Heap.read_set_self _ (Heap.lt_of_read hread)]
  rfl

/-- The last cell links on to another address. -/
theorem Seg.setNext (hs : Seg L h before cells after) (hnodup : (cells.map Prod.fst).Nodup)
    (hlast : last none cells = some p) (hread : h.read p = some v)
    (hprev : L.prev w = L.prev v) (hnext : L.next w = after') (hdatum : L.datum w = L.datum v) :
    Seg L (h.set p ⟨w, 0⟩ (Nat.zero_le 1)) before cells after' := by
  obtain ⟨b, rest, rfl⟩ := eq_concat_of_last hlast
  obtain ⟨hrest, ⟨v', hv', hback, -, hdatum'⟩, -⟩ := seg_append.mp hs
  obtain rfl := Option.some.inj (hread.symm.trans hv')
  have hp : p ∉ rest.map Prod.fst := by
    rw [List.map_append, List.map_singleton, List.nodup_append] at hnodup
    exact fun hmem => hnodup.2.2 p hmem p (by simp) rfl
  refine seg_append.mpr ⟨hrest.set_of_not_mem hp _, ⟨w, ?_, hprev.trans hback, hnext,
    hdatum.trans hdatum'⟩, trivial⟩
  rw [Heap.read_set_self _ (Heap.lt_of_read hread)]
  rfl

/-! ### Chains -/

/-- The forward links of a list. -/
theorem Seg.forward (hs : Seg L h before cells none) :
    Chain h L.next (first cells none) (cells.map Prod.fst) := by
  induction cells generalizing before with
  | nil => rfl
  | cons c cells ih =>
      obtain ⟨⟨v, hv, -, hnext, -⟩, hrest⟩ := hs
      refine ⟨rfl, v, hv, ?_⟩
      rw [hnext]
      exact ih hrest

/-- The backward links of a list, from its end. -/
theorem Seg.backward (hs : Seg L h none cells after) :
    Chain h L.prev (last none cells) (cells.map Prod.fst).reverse := by
  induction cells using List.reverseRecOn generalizing after with
  | nil => rfl
  | append_singleton cells c ih =>
      obtain ⟨hinit, ⟨v, hv, hprev, -⟩, -⟩ := seg_append.mp hs
      rw [last_append, List.map_append, List.reverse_append]
      refine ⟨rfl, v, hv, ?_⟩
      rw [hprev]
      exact ih hinit

end LocHal.CellHeap
