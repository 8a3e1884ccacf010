import Mathlib.Data.List.Perm.Subperm
import LocHal.Lib.DoublyLinked

/-!
# `LocHal.Util.LinkedList`: the doubly linked list of the C utilities

The elements of a list are cells of a heap. Each function of `linked_list.c` reads and writes
their pointers; `none` is the fault of an access to an element that is not live. New elements go
in at the head and come out at the tail.

`ListState.Holds l h cells` says that the list is well linked in the heap and what it holds, from
head to tail. Each function has one theorem that says what it returns and what the list holds after
it: `linkedListAdd_eq`, `linkedListRemove_eq`, `linkedListFlush_eq`, `linkedListSearch_eq`.

The head of the list is the end where elements are added, so a list that is used as a queue is read
from its tail, and `cells` has the newest element first.

The functions that take an element out do not look for its neighbours again. `linked_list_remove`
unlinks the tail, and `linked_list_search` an element in the middle: `relinkNext_eq` and
`relinkPrev_eq` are the two links that it changes there, each with its case for an end of the list.
The flush frees from the head on and does not repair the links back, so its loop needs the forward
links only (`flushLoop_eq`).
-/

set_option autoImplicit false

namespace LocHal.Util

open CellHeap

/-- `linked_list_err_type`. -/
inductive LinkedListErrType where
  | success
  | failureGeneral
  | invalidParameter
  | invalidHandle
  | unavailableResource
  | insufficientBuffer
  deriving DecidableEq, Repr

/-- A `void*` of the caller that is not `NULL`. -/
abbrev DataPtr := Nat

/-- The address of a function `void (*)(void*)`. -/
abbrev DeallocFunc := Nat

/-- `list_element`. -/
structure ListElement where
  next : Option Ptr
  prev : Option Ptr
  dataPtr : DataPtr
  deallocFunc : Option DeallocFunc
  deriving DecidableEq, Repr

/-- `list_state`. -/
structure ListState where
  pHead : Option Ptr
  pTail : Option Ptr
  deriving DecidableEq, Repr

/-- An element that was freed together with its datum: its address, and the call of its
`dealloc_func`, if it has one. -/
structure Freed where
  elem : Ptr
  call : Option (DeallocFunc × DataPtr)
  deriving DecidableEq, Repr

/-- `p->next = x`. -/
def setNext (h : Heap ListElement) (p : Ptr) (x : Option Ptr) : Option (Heap ListElement) :=
  (h.read p).bind fun e => h.write p { e with next := x }

/-- `p->prev = x`. -/
def setPrev (h : Heap ListElement) (p : Ptr) (x : Option Ptr) : Option (Heap ListElement) :=
  (h.read p).bind fun e => h.write p { e with prev := x }

/-- The call that an element asks for when its datum is deallocated. -/
def ListElement.dealloc (e : ListElement) : Option (DeallocFunc × DataPtr) :=
  e.deallocFunc.map fun f => (f, e.dataPtr)

/-! ### The functions -/

/-- `linked_list_init`: the new list. -/
def linkedListInit : ListState := ⟨none, none⟩

/-- `linked_list_add`. `malloc` says whether the allocation succeeds. -/
def linkedListAdd (h : Heap ListElement) (listData : Option ListState) (dataObj : Option DataPtr)
    (dealloc : Option DeallocFunc) (malloc : Bool) :
    Option (LinkedListErrType × Heap ListElement × Option ListState) :=
  match listData with
  | none => some (.invalidHandle, h, none)
  | some list =>
      match dataObj with
      | none => some (.invalidParameter, h, some list)
      | some data =>
          if malloc then do
            let (h₁, elem) := h.new ⟨none, none, data, dealloc⟩
            let tmp := list.pHead
            let h₂ ← setNext h₁ elem tmp
            match tmp with
            | some p =>
                let h₃ ← setPrev h₂ p (some elem)
                some (.success, h₃, some { list with pHead := some elem })
            | none => some (.success, h₂, some ⟨some elem, some elem⟩)
          else some (.failureGeneral, h, some list)

/-- `linked_list_remove`. `dataObj` says whether there is an output parameter. -/
def linkedListRemove (h : Heap ListElement) (listData : Option ListState) (dataObj : Bool) :
    Option (LinkedListErrType × Option DataPtr × Heap ListElement × Option ListState) :=
  match listData with
  | none => some (.invalidHandle, none, h, none)
  | some list =>
      if dataObj then
        match list.pTail with
        | none => some (.unavailableResource, none, h, some list)
        | some tmp => do
            let e ← h.read tmp
            let h₁ ← match e.prev with
              | some p => setNext h p none
              | none => some h
            let list' : ListState :=
              match e.prev with
              | some p => { list with pTail := some p }
              | none => ⟨none, none⟩
            let h₂ ← h₁.delete tmp
            some (.success, some e.dataPtr, h₂, some list')
      else some (.invalidParameter, none, h, some list)

/-- `linked_list_empty`. The error for a missing list is not zero either. -/
def linkedListEmpty : Option ListState → Int
  | none => -3
  | some list => if list.pHead = none then 1 else 0

/-- The loop of `linked_list_flush` from the element `pHead` on. -/
def flushLoop : Nat → Heap ListElement → Option Ptr → Option (List Freed × Heap ListElement)
  | _, h, none => some ([], h)
  | 0, _, some _ => none
  | n + 1, h, some p => do
      let e ← h.read p
      let h₁ ← h.delete p
      let (freed, h₂) ← flushLoop n h₁ e.next
      some (⟨p, e.dealloc⟩ :: freed, h₂)

/-- `linked_list_flush`. The list has no more elements than the heap has cells. -/
def linkedListFlush (h : Heap ListElement) (listData : Option ListState) :
    Option (LinkedListErrType × List Freed × Heap ListElement × Option ListState) :=
  match listData with
  | none => some (.invalidHandle, [], h, none)
  | some list => do
      let (freed, h₁) ← flushLoop h.cells.length h list.pHead
      some (.success, freed, h₁, some ⟨none, none⟩)

/-- `linked_list_destroy` of a list handle. -/
def linkedListDestroy (h : Heap ListElement) (listData : Option ListState) :
    Option (LinkedListErrType × List Freed × Heap ListElement × Option ListState) := do
  let (_, freed, h₁, _) ← linkedListFlush h listData
  some (.success, freed, h₁, none)

/-- The loop of `linked_list_search`: the first element from `tmp` on that is equal. -/
def searchLoop (h : Heap ListElement) (equal : DataPtr → Bool) :
    Nat → Option Ptr → Option (Option Ptr)
  | _, none => some none
  | 0, some _ => none
  | n + 1, some p => do
      let e ← h.read p
      if equal e.dataPtr then some (some p) else searchLoop h equal n e.next

/-- The link on from the predecessor of an element that is taken out, or from the head. -/
def relinkNext (h : Heap ListElement) (prev next pHead : Option Ptr) :
    Option (Heap ListElement × Option Ptr) :=
  match prev with
  | none => some (h, next)
  | some p => (setNext h p next).map fun h₁ => (h₁, pHead)

/-- The link back from the successor of an element that is taken out, or from the tail. -/
def relinkPrev (h : Heap ListElement) (prev next pTail : Option Ptr) :
    Option (Heap ListElement × Option Ptr) :=
  match next with
  | none => some (h, prev)
  | some p => (setPrev h p prev).map fun h₁ => (h₁, pTail)

/-- The removal of the element that `linked_list_search` has found. -/
def searchRemove (h : Heap ListElement) (list : ListState) (tmp : Ptr) :
    Option (Heap ListElement × ListState) := do
  let e ← h.read tmp
  let (h₁, pHead) ← relinkNext h e.prev e.next list.pHead
  let (h₂, pTail) ← relinkPrev h₁ e.prev e.next list.pTail
  let h₃ ← h₂.delete tmp
  some (h₃, ⟨pHead, pTail⟩)

/-- `linked_list_search`. `dataP` says whether the datum is copied out. -/
def linkedListSearch (h : Heap ListElement) (listData : Option ListState) (dataP : Bool)
    (equal : Option (DataPtr → DataPtr → Bool)) (data0 : DataPtr) (rmIfFound : Bool) :
    Option (LinkedListErrType × Option DataPtr × Option Freed × Heap ListElement ×
      Option ListState) :=
  match listData, equal with
  | some list, some equal =>
      if list.pTail = none then some (.unavailableResource, none, none, h, some list)
      else do
        let found ← searchLoop h (equal data0) h.cells.length list.pHead
        match found with
        | none => some (.success, none, none, h, some list)
        | some tmp =>
            let e ← h.read tmp
            let data := if dataP then some e.dataPtr else none
            if rmIfFound then
              let (h₁, list') ← searchRemove h list tmp
              some (.success, data, some ⟨tmp, if dataP then none else e.dealloc⟩, h₁, some list')
            else some (.success, data, none, h, some list)
  | listData, _ => some (.invalidHandle, none, none, h, listData)

/-! ### What a list holds -/

/-- Where an element has its links and its datum. -/
def listLayout : Layout ListElement (DataPtr × Option DeallocFunc) :=
  ⟨ListElement.next, ListElement.prev, fun e => (e.dataPtr, e.deallocFunc)⟩

/-- An element of the list: its address, its datum and its function. -/
abbrev Held := Ptr × DataPtr × Option DeallocFunc

/-- The freeing of an element with its datum. -/
def Held.freed (c : Held) : Freed := ⟨c.1, c.2.2.map fun f => (f, c.2.1)⟩

/-- The list is linked in the heap and holds `cells`, from head to tail. -/
structure ListState.Holds (l : ListState) (h : Heap ListElement) (cells : List Held) : Prop where
  nodup : (cells.map Prod.fst).Nodup
  seg : Seg listLayout h none cells none
  head : l.pHead = first cells none
  tail : l.pTail = last none cells

/-- The links of a list: forward from the head and backward from the tail. -/
structure ListState.Linked (l : ListState) (h : Heap ListElement) (ps : List Ptr) : Prop where
  forward : Chain h ListElement.next l.pHead ps
  backward : Chain h ListElement.prev l.pTail ps.reverse
  ends : l.pHead = none ↔ l.pTail = none

variable {h h' : Heap ListElement} {l : ListState} {cells : List Held} {p : Ptr} {e : ListElement}

/-- A list that holds something is linked. -/
theorem ListState.Holds.linked (hl : l.Holds h cells) : l.Linked h (cells.map Prod.fst) where
  forward := hl.head ▸ hl.seg.forward
  backward := hl.tail ▸ hl.seg.backward
  ends := by
    rw [hl.head, hl.tail]
    constructor
    · intro hnone
      rw [eq_nil_of_first hnone]
      rfl
    · intro hnone
      rw [eq_nil_of_last hnone]
      rfl

theorem holds_init (h : Heap ListElement) : linkedListInit.Holds h [] :=
  ⟨List.nodup_nil, trivial, rfl, rfl⟩

theorem setNext_eq (hread : h.read p = some e) (x : Option Ptr) :
    setNext h p x = some (h.set p ⟨{ e with next := x }, 0⟩ (Nat.zero_le 1)) := by
  unfold setNext
  rw [hread]
  exact Heap.write_eq _ hread

theorem setPrev_eq (hread : h.read p = some e) (x : Option Ptr) :
    setPrev h p x = some (h.set p ⟨{ e with prev := x }, 0⟩ (Nat.zero_le 1)) := by
  unfold setPrev
  rw [hread]
  exact Heap.write_eq _ hread

/-- An assignment allocates nothing. -/
theorem length_set (h : Heap ListElement) (p : Ptr) {c : Cell ListElement} (hc : c.deletes ≤ 1) :
    (h.set p c hc).cells.length = h.cells.length := List.length_set

theorem length_delete (hdel : h.delete p = some h') : h'.cells.length = h.cells.length := by
  unfold Heap.delete at hdel
  rw [Option.map_eq_some_iff] at hdel
  obtain ⟨e, -, rfl⟩ := hdel
  exact length_set h p _

/-- A list has no more elements than the heap has cells. -/
theorem ListState.Holds.length_le (hl : l.Holds h cells) : cells.length ≤ h.cells.length := by
  have hsub : cells.map Prod.fst ⊆ List.range h.cells.length := fun q hq => by
    obtain ⟨e, he⟩ := hl.seg.read_of_mem hq
    exact List.mem_range.mpr (Heap.lt_of_read he)
  have hle := (hl.nodup.subperm hsub).length_le
  rwa [List.length_map, List.length_range] at hle

/-! ### What the functions do -/

/-- An element is added at the head. -/
theorem linkedListAdd_eq (hl : l.Holds h cells) (data : DataPtr) (dealloc : Option DeallocFunc) :
    ∃ h' l', linkedListAdd h (some l) (some data) dealloc true = some (.success, h', some l') ∧
      l'.Holds h' ((h.cells.length, data, dealloc) :: cells) ∧
      h'.cells.length = h.cells.length + 1 ∧ l'.pHead = some h.cells.length := by
  obtain ⟨hnodup, hseg, hhead, htail⟩ := hl
  have helem : (h.new ⟨none, none, data, dealloc⟩).1.read h.cells.length = some _ :=
    h.read_new_self ⟨none, none, data, dealloc⟩
  have hfresh : h.cells.length ∉ cells.map Prod.fst := hseg.not_mem_new ⟨none, none, data, dealloc⟩
  have hnodup' : (((h.cells.length, data, dealloc) :: cells).map Prod.fst).Nodup :=
    List.nodup_cons.mpr ⟨hfresh, hnodup⟩
  have hlen : (h.new ⟨none, none, data, dealloc⟩).1.cells.length = h.cells.length + 1 := by
    simp [Heap.new]
  -- the new element links on to the old head
  have hseg₂ := (hseg.new ⟨none, none, data, dealloc⟩).set_of_not_mem hfresh
    (c := ⟨⟨l.pHead, none, data, dealloc⟩, 0⟩) (Nat.zero_le 1)
  have helem₂ := Heap.read_set_self (c := ⟨⟨l.pHead, none, data, dealloc⟩, 0⟩) (Nat.zero_le 1)
    (Heap.lt_of_read helem)
  unfold linkedListAdd
  dsimp only [Heap.new] at *
  rw [if_pos rfl, setNext_eq helem, Option.bind_eq_bind, Option.bind_some]
  cases hp : l.pHead with
  | none =>
      rw [hp] at hhead helem₂
      obtain rfl := eq_nil_of_first hhead.symm
      refine ⟨_, _, rfl, ⟨hnodup', ⟨⟨_, helem₂, rfl, rfl, rfl⟩, trivial⟩, rfl, rfl⟩, ?_, rfl⟩
      rw [length_set, hlen]
  | some p =>
      rw [hp] at hhead helem₂ hseg₂
      obtain ⟨b, rest, rfl⟩ := eq_cons_of_first hhead.symm
      obtain ⟨⟨v, hv, -⟩, -⟩ := id hseg₂
      have hne : h.cells.length ≠ p := fun heq => hfresh (by simp [heq])
      dsimp only
      rw [setPrev_eq hv, Option.bind_some]
      refine ⟨_, _, rfl, ⟨hnodup', ⟨⟨_, (Heap.read_set_of_ne _ hne).trans helem₂, rfl, rfl, rfl⟩,
        hseg₂.setPrev hnodup rfl hv rfl rfl rfl⟩, rfl, ?_⟩, ?_, rfl⟩
      · exact htail
      · rw [length_set, length_set, hlen]

/-- The tail of a list is the element that was added first. -/
theorem ListState.Holds.tail_eq {c : Held} (hl : l.Holds h (cells ++ [c])) :
    l.pTail = some c.1 := by
  rw [hl.tail, last_append]
  rfl

/-- The element at the tail is removed. -/
theorem linkedListRemove_eq {c : Held} (hl : l.Holds h (cells ++ [c])) :
    ∃ h' l', linkedListRemove h (some l) true = some (.success, some c.2.1, h', some l') ∧
      l'.Holds h' cells ∧ h'.cells.length = h.cells.length := by
  have htail := hl.tail_eq
  obtain ⟨hnodup, hseg, hhead, -⟩ := hl
  rw [List.map_append, List.map_singleton, List.nodup_append] at hnodup
  obtain ⟨hnodup, -, hout⟩ := hnodup
  have hc : c.1 ∉ cells.map Prod.fst := fun hmem => hout c.1 hmem c.1 (by simp) rfl
  obtain ⟨hinit, ⟨e, he, hprev, -, hdatum⟩, -⟩ := seg_append.mp hseg
  have hdata : e.dataPtr = c.2.1 := congrArg Prod.fst hdatum
  change e.prev = last none cells at hprev
  unfold linkedListRemove
  dsimp only
  rw [if_pos rfl, htail]
  dsimp only
  rw [he, Option.bind_eq_bind, Option.bind_some]
  cases hp : e.prev with
  | none =>
      -- it was the only element
      rw [hp] at hprev
      obtain rfl := eq_nil_of_last hprev.symm
      have hdel := Heap.delete_eq he
      dsimp only
      simp only [Option.bind_eq_bind, Option.bind_some, hdel, hdata]
      exact ⟨_, _, rfl, ⟨hnodup, trivial, rfl, rfl⟩, length_delete hdel⟩
  | some p =>
      rw [hp] at hprev
      obtain ⟨b, rest, rfl⟩ := eq_concat_of_last hprev.symm
      obtain ⟨v, hv⟩ := hinit.read_of_mem (p := p) (by simp)
      have hne : c.1 ≠ p := fun heq => hc (by simp [heq])
      have hinit' := hinit.setNext (w := { v with next := none }) hnodup hprev.symm hv rfl rfl rfl
      have hdel := Heap.delete_eq ((Heap.read_set_of_ne (c := ⟨{ v with next := none }, 0⟩)
        (Nat.zero_le 1) hne).trans he)
      dsimp only
      simp only [setNext_eq hv, Option.bind_eq_bind, Option.bind_some, hdel, hdata]
      refine ⟨_, _, rfl, ⟨hnodup, hinit'.delete hdel hc, ?_, hprev⟩, ?_⟩
      · show l.pHead = _
        rw [hhead, first_append, first_append, first_append]
        cases rest <;> rfl
      · rw [length_delete hdel, length_set]

/-- An empty list has nothing to remove. -/
theorem linkedListRemove_nil (hl : l.Holds h []) :
    linkedListRemove h (some l) true = some (.unavailableResource, none, h, some l) := by
  have htail : l.pTail = none := hl.tail
  unfold linkedListRemove
  dsimp only
  rw [if_pos rfl, htail]

theorem linkedListEmpty_eq (hl : l.Holds h cells) :
    linkedListEmpty (some l) = if cells = [] then 1 else 0 := by
  unfold linkedListEmpty
  dsimp only
  rw [hl.head]
  refine if_congr ⟨eq_nil_of_first, ?_⟩ rfl rfl
  rintro rfl
  rfl

/-- The loop of the flush frees every element, from the head on. The links back are stale by
then. -/
theorem flushLoop_eq {before : Option Ptr} {n : Nat} (hnodup : (cells.map Prod.fst).Nodup)
    (hseg : Seg listLayout h before cells none) (hn : cells.length ≤ n) :
    ∃ h', flushLoop n h (first cells none) = some (cells.map Held.freed, h') ∧
      h'.cells.length = h.cells.length := by
  induction cells generalizing h before n with
  | nil => exact ⟨h, by cases n <;> rfl, rfl⟩
  | cons c cells ih =>
      obtain ⟨hc, hnodup⟩ := List.nodup_cons.mp hnodup
      obtain ⟨⟨e, he, -, hnext, hdatum⟩, hrest⟩ := hseg
      obtain ⟨n, rfl⟩ : ∃ m, n = m + 1 := Nat.exists_eq_succ_of_ne_zero (by
        rintro rfl
        simp at hn)
      have hdel := Heap.delete_eq he
      obtain ⟨h', hloop, hlen⟩ := ih hnodup (hrest.delete hdel hc) (Nat.le_of_succ_le_succ hn)
      have hfreed : (⟨c.1, e.dealloc⟩ : Freed) = Held.freed c := by
        unfold Held.freed ListElement.dealloc
        rw [← hdatum]
        rfl
      change e.next = first cells none at hnext
      refine ⟨h', ?_, hlen.trans (length_delete hdel)⟩
      show flushLoop (n + 1) h (some c.1) = _
      unfold flushLoop
      simp only [he, Option.bind_eq_bind, Option.bind_some, hdel, hnext, hloop, hfreed]
      rfl

/-- A flush frees every element and leaves the list empty. -/
theorem linkedListFlush_eq (hl : l.Holds h cells) :
    ∃ h', linkedListFlush h (some l)
        = some (.success, cells.map Held.freed, h', some ⟨none, none⟩) ∧
      h'.cells.length = h.cells.length := by
  obtain ⟨h', hloop, hlen⟩ := flushLoop_eq hl.nodup hl.seg hl.length_le
  refine ⟨h', ?_, hlen⟩
  unfold linkedListFlush
  dsimp only
  rw [hl.head, hloop, Option.bind_eq_bind, Option.bind_some]

/-- The search finds the first equal element from the head on. -/
theorem searchLoop_eq {before : Option Ptr} {n : Nat} (equal : DataPtr → Bool)
    (hseg : Seg listLayout h before cells none) (hn : cells.length ≤ n) :
    searchLoop h equal n (first cells none)
      = some ((cells.find? fun c => equal c.2.1).map Prod.fst) := by
  induction cells generalizing before n with
  | nil => cases n <;> rfl
  | cons c cells ih =>
      obtain ⟨⟨e, he, -, hnext, hdatum⟩, hrest⟩ := hseg
      obtain ⟨n, rfl⟩ : ∃ m, n = m + 1 := Nat.exists_eq_succ_of_ne_zero (by
        rintro rfl
        simp at hn)
      have hdata : e.dataPtr = c.2.1 := congrArg Prod.fst hdatum
      change e.next = first cells none at hnext
      show searchLoop h equal (n + 1) (some c.1) = _
      unfold searchLoop
      rw [he, Option.bind_eq_bind, Option.bind_some, hdata, hnext, List.find?_cons]
      cases equal c.2.1 with
      | true => rfl
      | false => exact ih hrest (Nat.le_of_succ_le_succ hn)

/-- The elements before the one that is taken out link on to those after it. -/
theorem relinkNext_eq {after pHead : Option Ptr} (after' : Option Ptr)
    (hseg : Seg listLayout h none cells after) (hnodup : (cells.map Prod.fst).Nodup)
    (hhead : pHead = first cells after) :
    ∃ h', relinkNext h (last none cells) after' pHead = some (h', first cells after') ∧
      Seg listLayout h' none cells after' ∧ ∀ q ∉ cells.map Prod.fst, h'.read q = h.read q := by
  cases hlast : last none cells with
  | none =>
      obtain rfl := eq_nil_of_last hlast
      exact ⟨h, rfl, trivial, fun q _ => rfl⟩
  | some p =>
      obtain ⟨b, rest, rfl⟩ := eq_concat_of_last hlast
      obtain ⟨v, hv⟩ := hseg.read_of_mem (p := p) (by simp)
      refine ⟨h.set p ⟨{ v with next := after' }, 0⟩ (Nat.zero_le 1), ?_,
        hseg.setNext hnodup hlast hv rfl rfl rfl, fun q hq =>
          Heap.read_set_of_ne _ fun heq => hq (by simp [heq])⟩
      have hfirst : pHead = first (rest ++ [(p, b)]) after' := by
        rw [hhead]
        cases rest <;> rfl
      unfold relinkNext
      dsimp only
      rw [setNext_eq hv, hfirst]
      rfl

/-- The elements after the one that is taken out link back to those before it. -/
theorem relinkPrev_eq {before pTail : Option Ptr} (before' : Option Ptr)
    (hseg : Seg listLayout h before cells none) (hnodup : (cells.map Prod.fst).Nodup)
    (htail : pTail = last before cells) :
    ∃ h', relinkPrev h before' (first cells none) pTail = some (h', last before' cells) ∧
      Seg listLayout h' before' cells none ∧ ∀ q ∉ cells.map Prod.fst, h'.read q = h.read q := by
  cases hfirst : first cells none with
  | none =>
      obtain rfl := eq_nil_of_first hfirst
      exact ⟨h, rfl, trivial, fun q _ => rfl⟩
  | some p =>
      obtain ⟨b, rest, rfl⟩ := eq_cons_of_first hfirst
      obtain ⟨v, hv⟩ := hseg.read_of_mem (p := p) (by simp)
      refine ⟨h.set p ⟨{ v with prev := before' }, 0⟩ (Nat.zero_le 1), ?_,
        hseg.setPrev hnodup hfirst hv rfl rfl rfl, fun q hq =>
          Heap.read_set_of_ne _ fun heq => hq (by simp [heq])⟩
      unfold relinkPrev
      dsimp only
      rw [setPrev_eq hv, htail]
      rfl

/-- The element that was found is taken out of the middle: its neighbours are linked with each
other. -/
theorem searchRemove_eq {pre post : List Held} {c : Held} (hl : l.Holds h (pre ++ c :: post)) :
    ∃ h' l', searchRemove h l c.1 = some (h', l') ∧ l'.Holds h' (pre ++ post) := by
  obtain ⟨hnodup, hseg, hhead, htail⟩ := hl
  have hperm : ((pre ++ c :: post).map Prod.fst).Perm (c.1 :: (pre ++ post).map Prod.fst) := by
    rw [← List.map_cons]
    exact List.perm_middle.map _
  obtain ⟨hc, hall⟩ := List.nodup_cons.mp (hperm.nodup_iff.mp hnodup)
  rw [List.map_append, List.mem_append, not_or] at hc
  obtain ⟨hcPre, hcPost⟩ := hc
  obtain ⟨hnodupPre, hnodupPost, hdisjoint⟩ := List.nodup_append.mp (List.map_append ▸ hall)
  obtain ⟨hpre, ⟨e, he, hprev, hnext, -⟩, hpost⟩ := seg_append.mp hseg
  change e.prev = last none pre at hprev
  change e.next = first post none at hnext
  rw [first_append] at hhead
  rw [last_append] at htail
  obtain ⟨h₁, hlink₁, hpre₁, hframe₁⟩ :=
    relinkNext_eq (first post none) hpre hnodupPre hhead
  have hpost₁ : Seg listLayout h₁ (some c.1) post none :=
    hpost.frame fun q hq => hframe₁ q fun hmem => hdisjoint q hmem q hq rfl
  obtain ⟨h₂, hlink₂, hpost₂, hframe₂⟩ :=
    relinkPrev_eq (last none pre) hpost₁ hnodupPost htail
  have hpre₂ : Seg listLayout h₂ none pre (first post none) :=
    hpre₁.frame fun q hq => hframe₂ q fun hmem => hdisjoint q hq q hmem rfl
  have hread : h₂.read c.1 = some e :=
    (hframe₂ c.1 hcPost).trans ((hframe₁ c.1 hcPre).trans he)
  obtain ⟨h₃, hdel⟩ : ∃ h₃, h₂.delete c.1 = some h₃ := ⟨_, Heap.delete_eq hread⟩
  refine ⟨h₃, ⟨first pre (first post none), last (last none pre) post⟩, ?_,
    ⟨hall, ?_, first_append.symm, last_append.symm⟩⟩
  · unfold searchRemove
    simp only [he, hprev, hnext, hlink₁, hlink₂, hdel, Option.bind_eq_bind, Option.bind_some]
  · exact seg_append.mpr ⟨hpre₂.delete hdel hcPre, hpost₂.delete hdel hcPost⟩

/-- A search that removes takes the first equal element from the head on out of the list. Its datum
is copied out or deallocated. -/
theorem linkedListSearch_eq (hl : l.Holds h cells) (hne : cells ≠ []) (dataP : Bool)
    (equal : DataPtr → DataPtr → Bool) (data0 : DataPtr) :
    ∃ h' l', linkedListSearch h (some l) dataP (some equal) data0 true
        = some (.success,
            (cells.find? fun c => equal data0 c.2.1).bind fun c =>
              if dataP then some c.2.1 else none,
            (cells.find? fun c => equal data0 c.2.1).map fun c =>
              if dataP then ⟨c.1, none⟩ else c.freed,
            h', some l') ∧
      l'.Holds h' (cells.eraseP fun c => equal data0 c.2.1) := by
  have htail : l.pTail ≠ none := by
    rw [hl.tail]
    exact fun hnone => hne (eq_nil_of_last hnone)
  unfold linkedListSearch
  dsimp only
  rw [if_neg htail, hl.head, searchLoop_eq (equal data0) hl.seg hl.length_le,
    Option.bind_eq_bind, Option.bind_some]
  cases hfind : cells.find? fun c => equal data0 c.2.1 with
  | none =>
      refine ⟨h, l, rfl, ?_⟩
      rw [List.eraseP_of_forall_not (List.find?_eq_none.mp hfind)]
      exact hl
  | some c =>
      obtain ⟨hequal, pre, post, rfl, hpre⟩ := List.find?_eq_some_iff_append.mp hfind
      obtain ⟨h', l', hremove, hl'⟩ := searchRemove_eq hl
      obtain ⟨-, ⟨e, he, -, -, hdatum⟩, -⟩ := seg_append.mp hl.seg
      have hfreed : e.dealloc = (Held.freed c).call := by
        unfold Held.freed ListElement.dealloc
        rw [← hdatum]
        rfl
      have hdata : e.dataPtr = c.2.1 := congrArg Prod.fst hdatum
      refine ⟨h', l', ?_, ?_⟩
      · simp only [Option.map_some, he, Option.bind_eq_bind, Option.bind_some, hremove, hdata,
          hfreed]
        cases dataP <;> rfl
      · rw [List.eraseP_append_right _ fun c hc => by simpa using hpre c hc,
          List.eraseP_cons_of_pos (p := fun c : Held => equal data0 c.2.1) hequal]
        exact hl'

end LocHal.Util
