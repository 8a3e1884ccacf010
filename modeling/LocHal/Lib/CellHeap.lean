import Mathlib.Tactic.Common
import Mathlib.Data.List.Forall2

/-!
# `LocHal.Lib.CellHeap`: a heap of cells that are deleted by hand

A cell is live from `new` until `delete`. `read`, `write` and `delete` of an address that has no
live cell return `none`, which is the fault of the program that does it. Addresses are not used
again, and a cell counts its deletions; the heap carries the proof that the count is at most one.

`Owns h ps vs` says that the addresses `ps` are different and hold the values `vs`. `Updates`
relates two heaps and the addresses that a component owns before and after an operation: the
live cells of others keep their values, and every live cell is owned by the component or was
there before. It composes (`Updates.trans`), and each operation of the heap has a rule.

A function that works on the heap is described by two facts: what it owns afterwards, and `Updates`
from the addresses that it owned before. Then the caller knows what the function has returned and
that nothing else has changed, and the next function starts from the new addresses. `Updates.scoped`
is for a cell that is gone when the function returns.

No leak follows in the same way. At the end of a run a component owns what it still needs, and by
`Updates` every live cell is one of those or is not its own.
-/

set_option autoImplicit false

namespace LocHal.CellHeap

variable {α : Type*}

/-- A value with the number of its deletions. -/
structure Cell (α : Type*) where
  value : α
  deletes : Nat
  deriving DecidableEq, Repr

/-- An address. -/
abbrev Ptr := Nat

/-- The cells in the order of their allocation. No cell is deleted twice. -/
structure Heap (α : Type*) where
  cells : List (Cell α)
  once : ∀ c ∈ cells, c.deletes ≤ 1

namespace Heap

/-- No cell. -/
def empty : Heap α := ⟨[], by simp⟩

/-- The value of a live cell. -/
def read (h : Heap α) (p : Ptr) : Option α :=
  (h.cells[p]?).bind fun c => if c.deletes = 0 then some c.value else none

/-- How often the cell at `p` was deleted. -/
def deletes (h : Heap α) (p : Ptr) : Option Nat := (h.cells[p]?).map Cell.deletes

/-- Allocation. -/
def new (h : Heap α) (v : α) : Heap α × Ptr :=
  (⟨h.cells ++ [⟨v, 0⟩], by
    intro c hc
    rcases List.mem_append.mp hc with hold | hnew
    · exact h.once c hold
    · rw [List.mem_singleton.mp hnew]
      exact Nat.zero_le 1⟩, h.cells.length)

/-- The cell at `p` is replaced. -/
def set (h : Heap α) (p : Ptr) (c : Cell α) (hc : c.deletes ≤ 1) : Heap α :=
  ⟨h.cells.set p c, by
    intro d hd
    rcases List.mem_or_eq_of_mem_set hd with hold | rfl
    · exact h.once d hold
    · exact hc⟩

/-- An assignment to a live cell. -/
def write (h : Heap α) (p : Ptr) (v : α) : Option (Heap α) :=
  (h.read p).map fun _ => h.set p ⟨v, 0⟩ (Nat.zero_le 1)

/-- The deletion of a live cell. -/
def delete (h : Heap α) (p : Ptr) : Option (Heap α) :=
  (h.read p).map fun v => h.set p ⟨v, 1⟩ (Nat.le_refl 1)

variable {h h' : Heap α} {p q : Ptr} {v w : α}

@[simp] theorem read_empty (p : Ptr) : (empty : Heap α).read p = none := rfl

/-- A live cell is allocated. -/
theorem lt_of_read (hp : h.read p = some v) : p < h.cells.length := by
  unfold read at hp
  rw [Option.bind_eq_some_iff] at hp
  obtain ⟨c, hc, -⟩ := hp
  exact (List.getElem?_eq_some_iff.mp hc).1

/-- An allocated cell is live, or it was deleted once. -/
theorem deletes_eq (hp : p < h.cells.length) :
    h.deletes p = some (if (h.read p).isSome then 0 else 1) := by
  have hget : h.cells[p]? = some (h.cells[p]) := List.getElem?_eq_getElem hp
  have honce : (h.cells[p]).deletes ≤ 1 := h.once _ (List.getElem_mem hp)
  unfold deletes read
  rw [hget]
  simp only [Option.map_some, Option.bind_some]
  split
  · rename_i hzero
    simp [hzero]
  · rename_i hne
    have hone : (h.cells[p]).deletes = 1 := by omega
    simp [hone]

/-- The new cell. -/
theorem read_new_self (h : Heap α) (v : α) : (h.new v).1.read (h.new v).2 = some v := by
  simp [new, read]

/-- The address of the new cell is fresh. -/
theorem read_new_fresh (h : Heap α) (v : α) : h.read (h.new v).2 = none := by
  simp [new, read]

/-- The other cells. -/
theorem read_new_of_ne (v : α) (hne : q ≠ (h.new v).2) : (h.new v).1.read q = h.read q := by
  have hlen : h.cells.length ≠ q := fun heq => hne heq.symm
  unfold read new
  by_cases hlt : q < h.cells.length
  · simp [List.getElem?_append_left hlt]
  · have hge : h.cells.length + 1 ≤ q := Nat.lt_of_le_of_ne (Nat.le_of_not_lt hlt) hlen
    have hnone : (h.cells ++ [(⟨v, 0⟩ : Cell α)])[q]? = none :=
      List.getElem?_eq_none (by simpa using hge)
    simp [hnone, List.getElem?_eq_none (Nat.le_of_not_lt hlt)]

/-- The cells of a heap in which one is replaced. -/
theorem read_set_self {c : Cell α} (hc : c.deletes ≤ 1) (hp : p < h.cells.length) :
    (h.set p c hc).read p = if c.deletes = 0 then some c.value else none := by
  simp [set, read, hp]

theorem read_set_of_ne {c : Cell α} (hc : c.deletes ≤ 1) (hne : q ≠ p) :
    (h.set p c hc).read q = h.read q := by
  have hne' : p ≠ q := fun heq => hne heq.symm
  simp [set, read, List.getElem?_set_ne hne']

/-- An assignment to a live cell succeeds. -/
theorem write_eq (v : α) (hp : h.read p = some w) :
    h.write p v = some (h.set p ⟨v, 0⟩ (Nat.zero_le 1)) := by
  simp [write, hp]

/-- The deletion of a live cell succeeds. -/
theorem delete_eq (hp : h.read p = some v) :
    h.delete p = some (h.set p ⟨v, 1⟩ (Nat.le_refl 1)) := by
  simp [delete, hp]

/-- A deleted cell is not live. -/
theorem read_of_delete (hdel : h.delete p = some h') : h'.read p = none := by
  unfold delete at hdel
  rw [Option.map_eq_some_iff] at hdel
  obtain ⟨v, hv, rfl⟩ := hdel
  rw [read_set_self _ (lt_of_read hv)]
  rfl

/-- The cells that are not deleted. -/
theorem read_of_delete_of_ne (hdel : h.delete p = some h') (hne : q ≠ p) :
    h'.read q = h.read q := by
  unfold delete at hdel
  rw [Option.map_eq_some_iff] at hdel
  obtain ⟨v, -, rfl⟩ := hdel
  exact read_set_of_ne _ hne

end Heap

/-! ### Owned cells -/

/-- The different addresses `ps` hold the values `vs`. -/
structure Owns (h : Heap α) (ps : List Ptr) (vs : List α) : Prop where
  nodup : ps.Nodup
  reads : List.Forall₂ (fun p v => h.read p = some v) ps vs

/-- A component that owned `ps` in `h` owns `ps'` in `h'`. -/
structure Updates (h : Heap α) (ps : List Ptr) (h' : Heap α) (ps' : List Ptr) : Prop where
  frame : ∀ q v, q ∉ ps → h.read q = some v → h'.read q = some v ∧ q ∉ ps'
  live : ∀ q, (h'.read q).isSome → q ∈ ps' ∨ ((h.read q).isSome ∧ q ∉ ps)

variable {h h' h'' : Heap α} {ps ps' ps'' rest kept : List Ptr} {vs vrest vkept : List α}
  {p : Ptr} {v : α}

theorem Owns.nil (h : Heap α) : Owns h [] [] := ⟨List.nodup_nil, .nil⟩

theorem owns_cons : Owns h (p :: rest) (v :: vrest) ↔
    p ∉ rest ∧ h.read p = some v ∧ Owns h rest vrest := by
  constructor
  · intro ho
    obtain ⟨hp, hnodup⟩ := List.nodup_cons.mp ho.nodup
    cases ho.reads with
    | cons hv hrest => exact ⟨hp, hv, hnodup, hrest⟩
  · rintro ⟨hp, hv, ho⟩
    exact ⟨List.nodup_cons.mpr ⟨hp, ho.nodup⟩, .cons hv ho.reads⟩

/-- An owned address has its value. -/
theorem Owns.read_of_mem (ho : Owns h ps vs) (hp : p ∈ ps) : ∃ v ∈ vs, h.read p = some v := by
  have hreads := ho.reads
  clear ho
  induction hreads with
  | nil => cases hp
  | cons hv _ ih =>
      rename_i q w qs ws _
      rcases List.mem_cons.mp hp with rfl | hrest
      · exact ⟨w, List.mem_cons_self, hv⟩
      · obtain ⟨u, hu, hread⟩ := ih hrest
        exact ⟨u, List.mem_cons_of_mem _ hu, hread⟩

/-- Owned cells are owned in every heap that reads the same at them. -/
theorem Owns.frame (ho : Owns h ps vs)
    (hread : ∀ q ∈ ps, ∀ w, h.read q = some w → h'.read q = some w) : Owns h' ps vs := by
  refine ⟨ho.nodup, ?_⟩
  have hreads := ho.reads
  clear ho
  induction hreads with
  | nil => exact .nil
  | cons hv _ ih =>
      refine .cons (hread _ List.mem_cons_self _ hv) (ih fun q hq => ?_)
      exact hread q (List.mem_cons_of_mem _ hq)

theorem Owns.length_eq (ho : Owns h ps vs) : ps.length = vs.length := ho.reads.length_eq

theorem Updates.refl (h : Heap α) (ps : List Ptr) : Updates h ps h ps where
  frame := fun _ _ hq hv => ⟨hv, hq⟩
  live := fun q hq => by
    by_cases hmem : q ∈ ps
    · exact Or.inl hmem
    · exact Or.inr ⟨hq, hmem⟩

theorem Updates.trans (hu : Updates h ps h' ps') (hu' : Updates h' ps' h'' ps'') :
    Updates h ps h'' ps'' where
  frame := fun q v hq hv => by
    obtain ⟨hv', hq'⟩ := hu.frame q v hq hv
    exact hu'.frame q v hq' hv'
  live := fun q hq => by
    rcases hu'.live q hq with hmem | ⟨hlive, hnot⟩
    · exact Or.inl hmem
    · -- not owned in the middle, so it is not owned at the start
      rcases hu.live q hlive with hmem | hold
      · exact absurd hmem hnot
      · exact Or.inr hold

/-- One more owned address that the operation does not touch. -/
theorem Updates.cons (hu : Updates h rest h' kept) (p : Ptr) :
    Updates h (p :: rest) h' (p :: kept) where
  frame := fun q w hq hw => by
    rw [List.mem_cons, not_or] at hq
    obtain ⟨hw', hkept⟩ := hu.frame q w hq.2 hw
    exact ⟨hw', by simp [hq.1, hkept]⟩
  live := fun q hq => by
    rcases hu.live q hq with hmem | ⟨hlive, hnot⟩
    · exact Or.inl (List.mem_cons_of_mem _ hmem)
    · by_cases heq : q = p
      · exact Or.inl (by simp [heq])
      · exact Or.inr ⟨hlive, by simp [heq, hnot]⟩

/-- What is owned, with one more address that the operation does not touch. -/
theorem Owns.cons_of_updates (ho : Owns h' kept vkept) (hu : Updates h rest h' kept)
    (hp : p ∉ rest) (hv : h.read p = some v) : Owns h' (p :: kept) (v :: vkept) := by
  obtain ⟨hv', hkept⟩ := hu.frame p v hp hv
  exact owns_cons.mpr ⟨hkept, hv', ho⟩

/-- An owned cell is deleted. -/
theorem Updates.delete (hdel : h.delete p = some h') (hps : ∀ q, q ∈ ps ↔ q = p ∨ q ∈ rest) :
    Updates h ps h' rest where
  frame := fun q w hq hw => by
    rw [hps, not_or] at hq
    exact ⟨(Heap.read_of_delete_of_ne hdel hq.1).trans hw, hq.2⟩
  live := fun q hq => by
    by_cases hmem : q ∈ rest
    · exact Or.inl hmem
    · have hne : q ≠ p := by
        intro heq
        rw [heq, Heap.read_of_delete hdel] at hq
        cases hq
      rw [Heap.read_of_delete_of_ne hdel hne] at hq
      exact Or.inr ⟨hq, by rw [hps]; simp [hne, hmem]⟩

/-- The other owned cells survive a deletion. -/
theorem Owns.delete (ho : Owns h rest vrest) (hp : p ∉ rest) (hdel : h.delete p = some h') :
    Owns h' rest vrest := by
  refine ho.frame fun q hq w hw => ?_
  have hne : q ≠ p := by
    rintro rfl
    exact hp hq
  rw [Heap.read_of_delete_of_ne hdel hne, hw]

/-- A new cell at the end of the owned ones. -/
theorem Updates.push (h : Heap α) (ps : List Ptr) (v : α) :
    Updates h ps (h.new v).1 (ps ++ [(h.new v).2]) where
  frame := fun q w hq hw => by
    have hne : q ≠ (h.new v).2 := by
      intro heq
      rw [heq, Heap.read_new_fresh] at hw
      cases hw
    exact ⟨(Heap.read_new_of_ne v hne).trans hw, by simp [hq, hne]⟩
  live := fun q hq => by
    by_cases hne : q = (h.new v).2
    · exact Or.inl (by simp [hne])
    · rw [Heap.read_new_of_ne v hne] at hq
      by_cases hmem : q ∈ ps
      · exact Or.inl (by simp [hmem])
      · exact Or.inr ⟨hq, hmem⟩

theorem Owns.not_mem_new (ho : Owns h ps vs) (v : α) : (h.new v).2 ∉ ps := by
  intro hmem
  obtain ⟨w, -, hw⟩ := ho.read_of_mem hmem
  rw [Heap.read_new_fresh] at hw
  cases hw

/-- Owned cells are there after an allocation. -/
theorem Owns.new (ho : Owns h ps vs) (v : α) : Owns (h.new v).1 ps vs := by
  refine ho.frame fun q hq w hw => ?_
  have hne : q ≠ (h.new v).2 := by
    rintro rfl
    exact ho.not_mem_new v hq
  rw [Heap.read_new_of_ne v hne, hw]

theorem Owns.push (ho : Owns h ps vs) (v : α) :
    Owns (h.new v).1 (ps ++ [(h.new v).2]) (vs ++ [v]) where
  nodup := by
    rw [List.nodup_append]
    refine ⟨ho.nodup, by simp, fun a ha b hb => ?_⟩
    rw [List.mem_singleton.mp hb]
    rintro rfl
    exact ho.not_mem_new v ha
  reads := List.rel_append (ho.new v).reads (.cons (Heap.read_new_self h v) .nil)

/-- The owned cells before and after a given one. -/
theorem Owns.split_of_mem (ho : Owns h ps vs) (hp : p ∈ ps) :
    ∃ pre post vpre v vpost, ps = pre ++ p :: post ∧ vs = vpre ++ v :: vpost ∧
      h.read p = some v ∧ Owns h pre vpre ∧ Owns h post vpost ∧ p ∉ pre ∧ p ∉ post := by
  obtain ⟨hnodup, hreads⟩ := ho
  induction hreads with
  | nil => cases hp
  | cons hv hrest ih =>
      rename_i q w qs ws
      obtain ⟨hq, hqs⟩ := List.nodup_cons.mp hnodup
      by_cases heq : p = q
      · subst heq
        exact ⟨[], qs, [], w, ws, rfl, rfl, hv, .nil h, ⟨hqs, hrest⟩, List.not_mem_nil, hq⟩
      · have hmem : p ∈ qs := (List.mem_cons.mp hp).resolve_left heq
        obtain ⟨pre, post, vpre, v, vpost, hps, hvs, hread, hpre, hpost, hnpre, hnpost⟩ :=
          ih hmem hqs
        refine ⟨q :: pre, post, w :: vpre, v, vpost, by rw [hps]; rfl, by rw [hvs]; rfl, hread,
          ?_, hpost, ?_, hnpost⟩
        · refine owns_cons.mpr ⟨fun hqpre => hq ?_, hv, hpre⟩
          rw [hps]
          exact List.mem_append_left _ hqpre
        · rw [List.mem_cons, not_or]
          exact ⟨heq, hnpre⟩

/-- The other owned cells survive an assignment. -/
theorem Owns.set_of_not_mem {c : Cell α} (hc : c.deletes ≤ 1) (ho : Owns h ps vs) (hp : p ∉ ps) :
    Owns (h.set p c hc) ps vs := by
  refine ho.frame fun q hq w hw => ?_
  have hne : q ≠ p := by
    rintro rfl
    exact hp hq
  rw [Heap.read_set_of_ne hc hne, hw]

/-- An assignment to an owned cell. -/
theorem Updates.set {c : Cell α} (hc : c.deletes ≤ 1) (hp : p ∈ ps) :
    Updates h ps (h.set p c hc) ps where
  frame := fun q w hq hw => by
    have hne : q ≠ p := fun heq => hq (heq ▸ hp)
    exact ⟨(Heap.read_set_of_ne hc hne).trans hw, hq⟩
  live := fun q hq => by
    by_cases hmem : q ∈ ps
    · exact Or.inl hmem
    · have hne : q ≠ p := fun heq => hmem (heq ▸ hp)
      rw [Heap.read_set_of_ne hc hne] at hq
      exact Or.inr ⟨hq, hmem⟩

/-- A cell that lives as long as an operation: it is allocated before and deleted after it. -/
theorem Updates.scoped {h₀ : Heap α}
    (hu : Updates (h₀.new v).1 ps h' ps') (hdel : h'.delete (h₀.new v).2 = some h'') :
    Updates h₀ ps h'' ps' where
  frame := fun q w hq hw => by
    have hne : q ≠ (h₀.new v).2 := by
      intro heq
      rw [heq, Heap.read_new_fresh] at hw
      cases hw
    obtain ⟨hw', hq'⟩ := hu.frame q w hq ((Heap.read_new_of_ne v hne).trans hw)
    exact ⟨(Heap.read_of_delete_of_ne hdel hne).trans hw', hq'⟩
  live := fun q hq => by
    have hne : q ≠ (h₀.new v).2 := by
      intro heq
      rw [heq, Heap.read_of_delete hdel] at hq
      cases hq
    rw [Heap.read_of_delete_of_ne hdel hne] at hq
    rcases hu.live q hq with hmem | ⟨hlive, hnot⟩
    · exact Or.inl hmem
    · rw [Heap.read_new_of_ne v hne] at hlive
      exact Or.inr ⟨hlive, hnot⟩

end LocHal.CellHeap
