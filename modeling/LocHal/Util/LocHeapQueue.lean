import LocHal.Lib.LabelledRun
import LocHal.Lib.PriorityQueue
import LocHal.Util.LocHeap

/-!
# `LocHal.Util.LocHeapQueue`: `LocHeap` is a priority queue with removal

The rank of an object is a total preorder. `Ordered` is the heap order: nothing in the subtrees
of a node ranks higher than the node. `Sized` says that every stored `mSize` is the number of
nodes of its subtree. `push`, `pop` and `remove` keep both, and with the order the pruned search
of `remove` finds every object of the heap.

`LocHeap` is the heap with the ranking that is in force and the multiset of the objects that
were pushed and neither popped nor removed. A step is a call, or a change of the ranking that
leaves the objects of the heap alone. `run_isQueue` says that in every run the heap answers every
call as the priority queue specifies.

The specification is the one of the library `LocHal.Lib.PriorityQueue`: a push adds an object, a pop
and a peek give an object that nothing outranks, and a removal takes the object that it names, if it
is there. It does not say which of several equal objects comes first.

Each operation has three lemmas, one for each part of the invariant: the objects (`nodeCount_push`
and its like), the sizes (`Sized.push`) and the order (`Ordered.push`). `push` goes into the smaller
subtree and `pop` takes the larger object of the two subtrees up, so the sizes decide about the
shape and the ranks about the order.

`remove` does not look below a node that the object outranks. `remove_ne_none` says that in an
ordered heap it finds every object all the same. `remove_ne_none_iff` says when it finds an object
in any heap, which the module on the life of the timers needs, where the ranks may be no preorder.
-/

set_option autoImplicit false

namespace LocHal.Util

open LabelledRun PriorityQueue

namespace LocHeapNode

variable {α : Type}

/-- `a` ranks no higher than `b`. -/
def RankLe (ranks : α → α → Int) (a b : α) : Prop := ranks a b ≤ 0

theorem rankLe_of_outRanks_eq_false {ranks : α → α → Int} {a b : α}
    (h : outRanks ranks a b = false) : RankLe ranks a b := by
  show ranks a b ≤ 0
  simpa [outRanks] using h

theorem not_rankLe_of_outRanks {ranks : α → α → Int} {a b : α} (h : outRanks ranks a b = true) :
    ¬ RankLe ranks a b := by
  show ¬ ranks a b ≤ 0
  simpa [outRanks] using h

/-- The number of nodes. -/
def nodeCount : LocHeapNode α → Nat
  | null => 0
  | node _ mLeft mRight _ => mLeft.nodeCount + mRight.nodeCount + 1

/-- Every stored size is the number of nodes of its subtree. -/
def Sized : LocHeapNode α → Prop
  | null => True
  | node mSize mLeft mRight _ =>
      mSize = mLeft.nodeCount + mRight.nodeCount + 1 ∧ mLeft.Sized ∧ mRight.Sized

/-- `LocHeapNode::checkNodes`; a missing node passes, as in `checkTree`. -/
def checkNodes (ranks : α → α → Int) : LocHeapNode α → Bool
  | null => true
  | node mSize mLeft mRight mData =>
      (mLeft.peek.all fun d => !outRanks ranks d mData) && checkNodes ranks mLeft &&
        (mRight.peek.all fun d => !outRanks ranks d mData) && checkNodes ranks mRight &&
          decide ((mSize : Int) - mLeft.getSize - mRight.getSize = 1)

/-- Nothing in the subtrees of a node ranks higher than the node. -/
def Ordered (ranks : α → α → Int) : LocHeapNode α → Prop
  | null => True
  | node _ mLeft mRight mData =>
      (∀ d ∈ mLeft.elements + mRight.elements, RankLe ranks d mData) ∧
        mLeft.Ordered ranks ∧ mRight.Ordered ranks

variable {ranks : α → α → Int}

/-- The stored size of a sized tree. -/
theorem Sized.getSize {t : LocHeapNode α} (h : t.Sized) : t.getSize = t.nodeCount := by
  cases t with
  | null => rfl
  | node s l r d => exact h.1

/-- The top of an ordered tree ranks at least as high as the rest. -/
theorem Ordered.rankLe_peek {t : LocHeapNode α} {x d : α} (hrank : TotalPreorder (RankLe ranks))
    (h : t.Ordered ranks) (hpeek : t.peek = some d) (hx : x ∈ t.elements) : RankLe ranks x d := by
  cases t with
  | null => cases hpeek
  | node s l r e =>
      cases hpeek
      rcases Multiset.mem_cons.mp hx with rfl | hx
      · exact hrank.refl x
      · exact h.1 x hx

/-- The order depends on the ranks of the objects of the tree only. -/
theorem Ordered.congr {ranks' : α → α → Int} : ∀ {t : LocHeapNode α},
    t.Ordered ranks → (∀ a ∈ t.elements, ∀ b ∈ t.elements, ranks' a b = ranks a b) →
      t.Ordered ranks' := by
  intro t
  induction t with
  | null => intro _ _; exact trivial
  | node s l r d ihl ihr =>
      intro ho heq
      have hl : ∀ a ∈ l.elements, a ∈ (node s l r d).elements := fun a ha =>
        Multiset.mem_cons_of_mem (Multiset.mem_add.mpr (.inl ha))
      have hr : ∀ a ∈ r.elements, a ∈ (node s l r d).elements := fun a ha =>
        Multiset.mem_cons_of_mem (Multiset.mem_add.mpr (.inr ha))
      refine ⟨fun e he => ?_, ihl ho.2.1 fun a ha b hb => heq a (hl a ha) b (hl b hb),
        ihr ho.2.2 fun a ha b hb => heq a (hr a ha) b (hr b hb)⟩
      show ranks' e d ≤ 0
      rw [heq e (Multiset.mem_cons_of_mem he) d (Multiset.mem_cons_self d _)]
      exact ho.1 e he

/-- The two checks of the code hold in an ordered and sized tree. -/
theorem checkNodes_of_ordered : ∀ {t : LocHeapNode α}, t.Ordered ranks → t.Sized →
    t.checkNodes ranks = true := by
  intro t
  induction t with
  | null => intro _ _; rfl
  | node s l r d ihl ihr =>
      intro ho hs
      have htop : ∀ c : LocHeapNode α, (∀ x ∈ c.elements, RankLe ranks x d) →
          (c.peek.all fun x => !outRanks ranks x d) = true := by
        intro c hc
        cases hpeek : c.peek with
        | none => rfl
        | some x =>
            have hle : ranks x d ≤ 0 := hc x (mem_elements_of_peek hpeek)
            simp [outRanks, hle]
      have hleft := htop l fun x hx => ho.1 x (Multiset.mem_add.mpr (.inl hx))
      have hright := htop r fun x hx => ho.1 x (Multiset.mem_add.mpr (.inr hx))
      have hsize : ((s : Int) - l.getSize - r.getSize = 1) := by
        rw [hs.2.1.getSize, hs.2.2.getSize, hs.1]
        omega
      show ((l.peek.all fun x => !outRanks ranks x d) && l.checkNodes ranks &&
        (r.peek.all fun x => !outRanks ranks x d) && r.checkNodes ranks &&
          decide ((s : Int) - l.getSize - r.getSize = 1)) = true
      rw [hleft, hright, ihl ho.2.1 hs.2.1, ihr ho.2.2 hs.2.2, decide_eq_true hsize]
      rfl

/-! ### `push` -/

/-- `push` adds one node. -/
theorem nodeCount_push : ∀ (t : LocHeapNode α) (x : α),
    (push ranks t x).nodeCount = t.nodeCount + 1 := by
  intro t
  induction t with
  | null => intro x; rfl
  | node s l r d ihl ihr =>
      intro x
      rw [push.eq_def]
      dsimp only
      split
      · simp only [nodeCount]
        omega
      · simp only [nodeCount]
      · split
        · simp only [nodeCount, ihl]
          omega
        · simp only [nodeCount, ihr]
          omega

/-- `push` keeps the sizes. -/
theorem Sized.push : ∀ {t : LocHeapNode α}, t.Sized → ∀ x, (push ranks t x).Sized := by
  intro t
  induction t with
  | null => intro _ x; exact ⟨rfl, trivial, trivial⟩
  | node s l r d ihl ihr =>
      intro h x
      obtain ⟨hs, hl, hr⟩ := h
      rw [push.eq_def]
      dsimp only
      split
      · refine ⟨?_, ⟨rfl, trivial, trivial⟩, hr⟩
        simp only [nodeCount] at hs ⊢
        omega
      · refine ⟨?_, hl, ⟨rfl, trivial, trivial⟩⟩
        simp only [nodeCount] at hs ⊢
        omega
      · split
        · refine ⟨?_, ihl hl _, hr⟩
          rw [nodeCount_push]
          omega
        · refine ⟨?_, hl, ihr hr _⟩
          rw [nodeCount_push]
          omega

/-- `push` keeps the order. The object that goes down ranks no higher than the one that stays,
so it may join any subtree. -/
theorem Ordered.push (hrank : TotalPreorder (RankLe ranks)) : ∀ {t : LocHeapNode α},
    t.Ordered ranks → ∀ x, (push ranks t x).Ordered ranks := by
  intro t
  induction t with
  | null => intro _ x; exact ⟨fun d hd => absurd hd (Multiset.notMem_zero d), trivial, trivial⟩
  | node s l r d ihl ihr =>
      intro h x
      obtain ⟨htop, hl, hr⟩ := h
      rw [push.eq_def]
      dsimp only
      generalize hstay : (if outRanks ranks x d then x else d) = stay
      generalize hdown : (if outRanks ranks x d then d else x) = down
      -- the object that stays outranks the one that goes down and the old top
      have hle : RankLe ranks d stay ∧ RankLe ranks down stay := by
        cases hout : outRanks ranks x d with
        | false =>
            rw [hout, if_neg Bool.false_ne_true] at hstay hdown
            subst hstay hdown
            exact ⟨hrank.refl d, rankLe_of_outRanks_eq_false hout⟩
        | true =>
            rw [hout, if_pos rfl] at hstay hdown
            subst hstay hdown
            have hdx := hrank.le_of_not_le (not_rankLe_of_outRanks hout)
            exact ⟨hdx, hdx⟩
      have hold : ∀ y ∈ l.elements + r.elements, RankLe ranks y stay := by
        intro y hy
        exact hrank.trans y d stay (htop y hy) hle.1
      have hnew : ∀ y ∈ down ::ₘ (l.elements + r.elements), RankLe ranks y stay := by
        intro y hy
        rcases Multiset.mem_cons.mp hy with rfl | hy
        · exact hle.2
        · exact hold y hy
      have hleaf : (node 1 null null down).Ordered ranks :=
        ⟨fun y hy => absurd hy (Multiset.notMem_zero y), trivial, trivial⟩
      split
      · refine ⟨fun y hy => hnew y ?_, hleaf, hr⟩
        simpa using hy
      · refine ⟨fun y hy => hnew y ?_, hl, hleaf⟩
        simpa [or_comm, or_left_comm] using hy
      · split
        · refine ⟨fun y hy => hnew y ?_, ihl hl _, hr⟩
          rwa [elements_push, Multiset.cons_add] at hy
        · refine ⟨fun y hy => hnew y ?_, hl, ihr hr _⟩
          rwa [elements_push, Multiset.add_cons] at hy

/-! ### `pop` -/

/-- Popping a nonempty tree removes one node. -/
theorem nodeCount_popSwapped (x : α) (t : LocHeapNode α) :
    (popSwapped ranks x t).nodeCount = t.nodeCount - 1 := by
  induction t using popSwapped.induct ranks with
  | case1 => rfl
  | case2 => rfl
  | case3 n s l r d e ih =>
      simp only [popSwapped, nodeCount] at ih ⊢
      omega
  | case4 n s l r d e ih =>
      simp only [popSwapped, nodeCount] at ih ⊢
      omega
  | case5 n s l r d s' l' r' d' e hout ih =>
      rw [popSwapped, if_pos hout]
      simp only [nodeCount] at ih ⊢
      omega
  | case6 n s l r d s' l' r' d' e hout ih =>
      rw [popSwapped, if_neg hout]
      simp only [nodeCount] at ih ⊢
      omega

/-- Popping keeps the sizes. -/
theorem Sized.popSwapped (x : α) {t : LocHeapNode α} : t.Sized →
    (popSwapped ranks x t).Sized := by
  induction t using popSwapped.induct ranks with
  | case1 => intro _; exact trivial
  | case2 => intro _; exact trivial
  | case3 n s l r d e ih =>
      rintro ⟨hn, -, hr⟩
      refine ⟨?_, trivial, ih hr⟩
      rw [nodeCount_popSwapped]
      simp only [nodeCount] at hn ⊢
      omega
  | case4 n s l r d e ih =>
      rintro ⟨hn, hl, -⟩
      refine ⟨?_, ih hl, trivial⟩
      rw [nodeCount_popSwapped]
      simp only [nodeCount] at hn ⊢
      omega
  | case5 n s l r d s' l' r' d' e hout ih =>
      rintro ⟨hn, hl, hr⟩
      rw [LocHeapNode.popSwapped, if_pos hout]
      refine ⟨?_, ih hl, hr⟩
      rw [nodeCount_popSwapped]
      simp only [nodeCount] at hn ⊢
      omega
  | case6 n s l r d s' l' r' d' e hout ih =>
      rintro ⟨hn, hl, hr⟩
      rw [LocHeapNode.popSwapped, if_neg hout]
      refine ⟨?_, hl, ih hr⟩
      rw [nodeCount_popSwapped]
      simp only [nodeCount] at hn ⊢
      omega

/-- Popping keeps the order: the datum of the higher child moves up. -/
theorem Ordered.popSwapped (hrank : TotalPreorder (RankLe ranks)) (x : α) {t : LocHeapNode α} :
    t.Ordered ranks → (popSwapped ranks x t).Ordered ranks := by
  induction t using popSwapped.induct ranks with
  | case1 => intro _; exact trivial
  | case2 => intro _; exact trivial
  | case3 n s l r d e ih =>
      rintro ⟨-, -, hr⟩
      refine ⟨?_, trivial, ih hr⟩
      rw [elements_popSwapped x _ s l r d rfl, elements_null, Multiset.zero_add]
      exact hr.1
  | case4 n s l r d e ih =>
      rintro ⟨-, hl, -⟩
      refine ⟨?_, ih hl, trivial⟩
      rw [elements_popSwapped x _ s l r d rfl, elements_null, Multiset.add_zero]
      exact hl.1
  | case5 n s l r d s' l' r' d' e hout ih =>
      rintro ⟨-, hl, hr⟩
      rw [LocHeapNode.popSwapped, if_pos hout]
      refine ⟨?_, ih hl, hr⟩
      have hle : RankLe ranks d' d := hrank.le_of_not_le (not_rankLe_of_outRanks hout)
      intro y hy
      rw [elements_popSwapped x _ s l r d rfl] at hy
      rcases Multiset.mem_add.mp hy with hy | hy
      · exact hl.1 y hy
      · exact hrank.trans y d' d (hr.rankLe_peek hrank rfl hy) hle
  | case6 n s l r d s' l' r' d' e hout ih =>
      rintro ⟨-, hl, hr⟩
      rw [LocHeapNode.popSwapped, if_neg hout]
      refine ⟨?_, hl, ih hr⟩
      have hle : RankLe ranks d d' := rankLe_of_outRanks_eq_false (Bool.eq_false_iff.mpr hout)
      intro y hy
      rw [elements_popSwapped x _ s' l' r' d' rfl] at hy
      rcases Multiset.mem_add.mp hy with hy | hy
      · exact hrank.trans y d d' (hl.rankLe_peek hrank rfl hy) hle
      · exact hr.1 y hy

/-- What `pop` leaves. -/
theorem eq_of_pop {t t' : LocHeapNode α} {x : α} (h : pop ranks t = some (x, t')) :
    t' = popSwapped ranks x t := by
  cases t with
  | null => cases h
  | node s l r d =>
      cases h
      rfl

/-! ### `remove` -/

section Remove
variable [DecidableEq α]

/-- The removal removes one node. -/
theorem nodeCount_remove {x y : α} : ∀ {t t' : LocHeapNode α},
    remove ranks x t = some (y, t') → t'.nodeCount + 1 = t.nodeCount := by
  intro t t' h
  induction removes_of_remove h with
  | top hpop =>
      rw [eq_of_pop hpop, nodeCount_popSwapped]
      rfl
  | left hl _ ih =>
      have hcount := ih hl
      simp only [nodeCount]
      omega
  | right hr _ ih =>
      have hcount := ih hr
      simp only [nodeCount]
      omega

/-- The removal keeps the sizes. -/
theorem Sized.remove {x y : α} : ∀ {t t' : LocHeapNode α}, t.Sized →
    remove ranks x t = some (y, t') → t'.Sized := by
  intro t t' hsized h
  induction removes_of_remove h with
  | top hpop =>
      rw [eq_of_pop hpop]
      exact Sized.popSwapped y hsized
  | left hleft _ ih =>
      obtain ⟨hs, hl, hr⟩ := hsized
      have hcount := nodeCount_remove hleft
      exact ⟨by omega, ih hl hleft, hr⟩
  | right hright _ ih =>
      obtain ⟨hs, hl, hr⟩ := hsized
      have hcount := nodeCount_remove hright
      exact ⟨by omega, hl, ih hr hright⟩

/-- The removal keeps the order. -/
theorem Ordered.remove (hrank : TotalPreorder (RankLe ranks)) {x y : α} :
    ∀ {t t' : LocHeapNode α}, t.Ordered ranks → remove ranks x t = some (y, t') →
      t'.Ordered ranks := by
  intro t t' hord h
  induction removes_of_remove h with
  | top hpop =>
      rw [eq_of_pop hpop]
      exact Ordered.popSwapped hrank y hord
  | left hleft _ ih =>
      obtain ⟨htop, hl, hr⟩ := hord
      refine ⟨fun e he => htop e ?_, ih hl hleft, hr⟩
      rw [elements_remove hleft, Multiset.cons_add]
      exact Multiset.mem_cons_of_mem he
  | right hright _ ih =>
      obtain ⟨htop, hl, hr⟩ := hord
      refine ⟨fun e he => htop e ?_, hl, ih hr hright⟩
      rw [elements_remove hright, Multiset.add_cons]
      exact Multiset.mem_cons_of_mem he

/-- The search finds every object of an ordered tree. An object that outranks a node is in none
of its subtrees, so the pruning loses nothing. -/
theorem remove_ne_none {x : α} : ∀ {t : LocHeapNode α}, t.Ordered ranks → x ∈ t.elements →
    remove ranks x t ≠ none := by
  intro t
  induction t with
  | null => intro _ hx; exact absurd hx (Multiset.notMem_zero x)
  | node s l r d ihl ihr =>
      intro hord hx hnone
      obtain ⟨htop, hl, hr⟩ := hord
      rw [remove] at hnone
      split at hnone
      · exact absurd (pop_eq_none.mp hnone) (by simp)
      · rename_i hxd
        have hx' : x ∈ l.elements + r.elements := (Multiset.mem_cons.mp hx).resolve_left hxd
        split at hnone
        · rename_i hout
          exact not_rankLe_of_outRanks hout (htop x hx')
        · split at hnone
          · cases hnone
          · rename_i hleft
            split at hnone
            · cases hnone
            · rename_i hright
              rcases Multiset.mem_add.mp hx' with hx' | hx'
              · exact ihl hl hx' hleft
              · exact ihr hr hx' hright

/-- The way to the object is open: the object outranks no node above it. -/
def Visible (ranks : α → α → Int) (x : α) : LocHeapNode α → Prop
  | null => False
  | node _ mLeft mRight mData =>
      x = mData ∨
        outRanks ranks x mData = false ∧ (mLeft.Visible ranks x ∨ mRight.Visible ranks x)

/-- Whether the way is open can be computed. -/
instance decidableVisible (ranks : α → α → Int) (x : α) :
    ∀ t : LocHeapNode α, Decidable (t.Visible ranks x)
  | null => inferInstanceAs (Decidable False)
  | node _ mLeft mRight mData =>
      have := decidableVisible ranks x mLeft
      have := decidableVisible ranks x mRight
      inferInstanceAs (Decidable (x = mData ∨
        outRanks ranks x mData = false ∧ (mLeft.Visible ranks x ∨ mRight.Visible ranks x)))

/-- The search finds what it has an open way to, in any tree. -/
theorem remove_ne_none_iff {x : α} : ∀ {t : LocHeapNode α},
    remove ranks x t ≠ none ↔ t.Visible ranks x := by
  intro t
  induction t with
  | null => simp [remove, Visible]
  | node s l r d ihl ihr =>
      rw [remove, Visible]
      by_cases hxd : x = d
      · rw [if_pos hxd]
        simp [hxd, pop_eq_none]
      · rw [if_neg hxd]
        cases hout : outRanks ranks x d with
        | true => simp [hxd]
        | false =>
            rw [if_neg (by simp), ← ihl, ← ihr]
            cases hleft : remove ranks x l with
            | some removed => simp
            | none =>
                cases hright : remove ranks x r with
                | some removed => simp
                | none => simp [hxd]

end Remove

end LocHeapNode

/-! ### Runs -/

/-- The heap, the ranking that is in force, and the objects that were pushed and neither popped
nor removed. -/
structure LocHeap (α : Type) where
  mTree : LocHeapNode α
  ranks : α → α → Int
  held : Multiset α

/-- What happens next: a call, or the objects are ranked anew. -/
inductive LocHeapStep (α : Type) where
  | call (op : Op α)
  | rerank (ranks : α → α → Int)

namespace LocHeap

open LocHeapNode

variable {α : Type}

/-- The constructor. -/
def new (ranks : α → α → Int) : LocHeap α := ⟨.null, ranks, 0⟩

/-- The rank is a total preorder again, and it does not change between objects of the heap. The rank
of an object is read when it is compared, so nothing in the heap is moved when ranks change. That
does no harm to objects that are not in the heap. -/
def RanksKept (h : LocHeap α) : LocHeapStep α → Prop
  | .call _ => True
  | .rerank ranks => TotalPreorder (RankLe ranks) ∧
      ∀ a ∈ h.held, ∀ b ∈ h.held, ranks a b = h.ranks a b

/-- What every step keeps. -/
structure Inv (h : LocHeap α) : Prop where
  rank : TotalPreorder (RankLe h.ranks)
  contents : h.mTree.elements = h.held
  ordered : h.mTree.Ordered h.ranks
  sized : h.mTree.Sized

variable {h h' : LocHeap α}

theorem inv_new {ranks : α → α → Int} (hrank : TotalPreorder (RankLe ranks)) :
    (new ranks).Inv :=
  ⟨hrank, rfl, trivial, trivial⟩

/-- The top of an ordered tree is a top of what is held. -/
theorem Inv.isTop (hinv : h.Inv) {x : α} (hpeek : h.mTree.peek = some x) :
    IsTop (RankLe h.ranks) h.held x := by
  rw [← hinv.contents]
  exact ⟨mem_elements_of_peek hpeek, fun y hy => hinv.ordered.rankLe_peek hinv.rank hpeek hy⟩

/-- Only the empty heap has no top. -/
theorem Inv.held_of_peek (hinv : h.Inv) (hpeek : h.mTree.peek = none) : h.held = 0 := by
  rw [← hinv.contents, peek_eq_none.mp hpeek, elements_null]

section Calls
variable [DecidableEq α]

/-- `LocHeap::push`, `LocHeap::pop`, `LocHeap::peek` and `LocHeap::remove`: what is returned,
and the tree after the call. -/
def call (h : LocHeap α) : Op α → Option α × LocHeapNode α
  | .push x => (none, h.mTree.push h.ranks x)
  | .pop => (h.mTree.pop h.ranks).elim (none, h.mTree) fun r => (some r.1, r.2)
  | .peek => (h.mTree.peek, h.mTree)
  | .remove x => (h.mTree.remove h.ranks x).elim (none, h.mTree) fun r => (some r.1, r.2)

/-- One step. -/
def step (h : LocHeap α) : LocHeapStep α → Option (LocHeap α)
  | .call op =>
      some { h with mTree := (h.call op).2, held := PriorityQueue.after h.held op (h.call op).1 }
  | .rerank ranks => some { h with ranks := ranks }

/-- The heap holds what it should, its next call is answered as specified, whichever it is, and the
sizes and the checks of the code are right. `held` is what was pushed and not taken out, by the
answers of the calls. -/
structure IsQueue (h : LocHeap α) : Prop where
  contents : h.mTree.elements = h.held
  answers : ∀ op, Answers (RankLe h.ranks) h.held op (h.call op).1 (h.call op).2.elements
  sized : h.mTree.Sized
  checkNodes : h.mTree.checkNodes h.ranks = true

/-- Every call is answered as specified. -/
theorem Inv.answers (hinv : h.Inv) (op : Op α) :
    Answers (RankLe h.ranks) h.held op (h.call op).1 (h.call op).2.elements := by
  cases op with
  | push x =>
      show Answers _ _ _ none (h.mTree.push h.ranks x).elements
      rw [elements_push, hinv.contents]
      exact .push h.held x
  | peek =>
      show Answers _ _ _ h.mTree.peek h.mTree.elements
      rw [hinv.contents]
      cases hpeek : h.mTree.peek with
      | none =>
          rw [hinv.held_of_peek hpeek]
          exact .peekEmpty
      | some x => exact .peek h.held x (hinv.isTop hpeek)
  | pop =>
      cases hpop : h.mTree.pop h.ranks with
      | none =>
          -- the empty heap
          have hnull := pop_eq_none.mp hpop
          have hheld : h.held = 0 := by
            rw [← hinv.contents, hnull, elements_null]
          show Answers _ _ _ ((h.mTree.pop h.ranks).elim (none, h.mTree) _).1
            ((h.mTree.pop h.ranks).elim (none, h.mTree) _).2.elements
          rw [hpop, Option.elim_none, hinv.contents, hheld]
          exact .popEmpty
      | some r =>
          have htop := hinv.isTop (peek_of_pop hpop)
          have helems := elements_pop hpop
          show Answers _ _ _ ((h.mTree.pop h.ranks).elim (none, h.mTree) _).1
            ((h.mTree.pop h.ranks).elim (none, h.mTree) _).2.elements
          rw [hpop, Option.elim_some]
          rw [← hinv.contents, helems] at htop ⊢
          exact .pop r.2.elements r.1 htop
  | remove x =>
      show Answers _ _ _ ((h.mTree.remove h.ranks x).elim (none, h.mTree) _).1
        ((h.mTree.remove h.ranks x).elim (none, h.mTree) _).2.elements
      cases hremove : h.mTree.remove h.ranks x with
      | none =>
          rw [Option.elim_none, hinv.contents]
          -- an element that is held is found
          refine .removeAbsent h.held x fun hx => ?_
          rw [← hinv.contents] at hx
          exact remove_ne_none hinv.ordered hx hremove
      | some r =>
          have hr : r.1 = x := eq_of_remove hremove
          rw [Option.elim_some, ← hinv.contents, elements_remove hremove, hr]
          exact .remove r.2.elements x

/-- Every call keeps the order and the sizes. -/
theorem Inv.call (hinv : h.Inv) (op : Op α) :
    (h.call op).2.Ordered h.ranks ∧ (h.call op).2.Sized := by
  cases op with
  | push x => exact ⟨hinv.ordered.push hinv.rank x, hinv.sized.push x⟩
  | peek => exact ⟨hinv.ordered, hinv.sized⟩
  | pop =>
      show ((h.mTree.pop h.ranks).elim (none, h.mTree) _).2.Ordered h.ranks ∧
        ((h.mTree.pop h.ranks).elim (none, h.mTree) _).2.Sized
      cases hpop : h.mTree.pop h.ranks with
      | none => exact ⟨hinv.ordered, hinv.sized⟩
      | some r =>
          rw [Option.elim_some, eq_of_pop hpop]
          exact ⟨hinv.ordered.popSwapped hinv.rank r.1, hinv.sized.popSwapped r.1⟩
  | remove x =>
      show ((h.mTree.remove h.ranks x).elim (none, h.mTree) _).2.Ordered h.ranks ∧
        ((h.mTree.remove h.ranks x).elim (none, h.mTree) _).2.Sized
      cases hremove : h.mTree.remove h.ranks x with
      | none => exact ⟨hinv.ordered, hinv.sized⟩
      | some r => exact ⟨hinv.ordered.remove hinv.rank hremove, hinv.sized.remove hremove⟩

/-- Every allowed step keeps the invariant. -/
theorem Inv.step (hinv : h.Inv) {i : LocHeapStep α} (hok : h.RanksKept i)
    (hstep : h.step i = some h') : h'.Inv := by
  cases i with
  | call op =>
      cases hstep
      exact ⟨hinv.rank, (hinv.answers op).eq_after, (hinv.call op).1, (hinv.call op).2⟩
  | rerank ranks =>
      cases hstep
      refine ⟨hok.1, hinv.contents, hinv.ordered.congr ?_, hinv.sized⟩
      intro a ha b hb
      rw [hinv.contents] at ha hb
      exact hok.2 a ha b hb

/-- What the invariant says about the heap. -/
theorem Inv.isQueue (hinv : h.Inv) : h.IsQueue :=
  ⟨hinv.contents, hinv.answers, hinv.sized, checkNodes_of_ordered hinv.ordered hinv.sized⟩

/-- In every run in which the objects of the heap keep their ranks, the heap is a priority queue
with removal after every step.

The condition on the ranks is what the comparison of the source needs: `outRanks` is asked again at
each level, and an object whose rank has changed meanwhile stands in a wrong place. A removal takes
the object itself, whatever others have its rank. -/
theorem run_isQueue (ranks : α → α → Int) (hrank : TotalPreorder (RankLe ranks))
    (steps : List (LocHeapStep α)) (hkept : Guarded step RanksKept (new ranks) steps)
    (h : LocHeap α) (hrun : run step (new ranks) steps = some h) : h.IsQueue :=
  (hkept.run_invariant (P := Inv) (fun _ _ _ hinv hok hstep => hinv.step hok hstep) steps
    (new ranks) h (inv_new hrank) hrun).isQueue

end Calls

/-- Numbers with a smaller last digit rank higher, and `3` ranks as if it ended in `last`. -/
def lastDigitRanks (last a b : Nat) : Int :=
  (if b = 3 then last else b % 10 : Nat) - (if a = 3 then last else a % 10 : Nat)

theorem totalPreorder_lastDigitRanks (last : Nat) :
    TotalPreorder (RankLe (lastDigitRanks last)) := by
  refine ⟨fun a b => ?_, fun a b c hab hbc => ?_⟩
  · unfold RankLe lastDigitRanks
    omega
  · unfold RankLe lastDigitRanks at *
    omega

/-- `13` and `3` rank equally, `3` is removed, ranks highest from then on, and comes back. -/
def removeAmongEquals : List (LocHeapStep Nat) :=
  [.call (.push 13), .call (.push 3), .call (.push 21), .call (.remove 3),
    .rerank (lastDigitRanks 0), .call (.push 3)]

/-- The heap after the run is a queue with `3` on top. -/
theorem run_isQueue_removeAmongEquals :
    ∃ h, run step (new (lastDigitRanks 3)) removeAmongEquals = some h ∧ h.IsQueue ∧
      h.mTree.peek = some 3 := by
  have hkept : Guarded step RanksKept (new (lastDigitRanks 3)) removeAmongEquals := by
    refine ⟨trivial, fun h₁ h1 => ⟨trivial, fun h₂ h2 => ⟨trivial, fun h₃ h3 => ⟨trivial,
      fun h₄ h4 => ⟨⟨totalPreorder_lastDigitRanks 0, ?_⟩, fun h₅ h5 => ⟨trivial,
        fun _ _ => trivial⟩⟩⟩⟩⟩⟩
    cases h1
    cases h2
    cases h3
    cases h4
    decide
  exact ⟨_, rfl, run_isQueue _ (totalPreorder_lastDigitRanks 3) removeAmongEquals hkept _ rfl, rfl⟩

end LocHeap

end LocHal.Util
