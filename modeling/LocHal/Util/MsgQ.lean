import Mathlib.Data.List.Nodup
import LocHal.Lib.LabelledRun
import LocHal.Lib.LastUse
import LocHal.Util.LinkedList

/-!
# `LocHal.Util.MsgQ`: the message queue of the C utilities

A queue is a list of `linked_list.c` behind a mutex. `msg_q_snd` adds at the head and `msg_q_rcv`
removes at the tail; a receiver that finds the queue empty waits until there is a message or the
queue is unblocked. Each function holds the mutex from its checks on, so a call is one step; for a
receiver that waits, what follows `pthread_cond_wait` is another one (`woken`).

`MsgQSystem` is one queue with its history. A message is known by the element that holds it: no
address is used twice. `Conserves` is the property: the list is well linked, messages are received
in the order in which they were accepted, and each one is in the queue, or was received once, or was
freed once with its `dealloc` function. `along_conserves` proves it for every order of calls.

A message that is accepted is held by a new element, and it leaves the queue at the tail by a
receive, or all at once by a flush or a destroy. `Account` is the account of this: the accepted
messages are the ones that have left, oldest first, and then the ones in the queue, from the tail to
the head. Each of the functions has a lemma that keeps the account (`Account.accept`,
`Account.receive`, `Account.free`, `Account.unblock`).

`Kept` is the invariant. It adds that the list is well linked and holds the messages of the account,
so that no function follows a pointer to nowhere, and that the elements of new messages are fresh.
The functions on the list itself are those of `LocHal.Util.LinkedList`, and `msgQSnd_cases`,
`msgQRcvLoop_cases`, `msgQFlush_eq` and `msgQDestroy_eq` say what they do to a list that holds given
messages. Destroying a queue while a receiver waits on it is not allowed by the interface, and such
a call is not a step (`Enabled`).
-/

set_option autoImplicit false

namespace LocHal.Util

open CellHeap LabelledRun

/-- `msq_q_err_type`. -/
inductive MsqQErrType where
  | success
  | failureGeneral
  | invalidParameter
  | invalidHandle
  | unavailableResource
  | insufficientBuffer
  deriving DecidableEq, Repr

/-- `convert_linked_list_err_type`. -/
def convertLinkedListErrType : LinkedListErrType → MsqQErrType
  | .success => .success
  | .invalidParameter => .invalidParameter
  | .invalidHandle => .invalidHandle
  | .unavailableResource => .unavailableResource
  | .insufficientBuffer => .insufficientBuffer
  | .failureGeneral => .failureGeneral

/-- `msg_q` without its mutex and its condition variable. -/
structure MsgQ where
  msgList : Option ListState
  unblocked : Bool
  deriving DecidableEq, Repr

/-! ### The functions -/

/-- `msg_q_init`: the new queue. -/
def msgQInit : MsgQ := ⟨some linkedListInit, false⟩

/-- `msg_q_destroy`. The members of a queue that is `NULL` cannot be accessed. -/
def msgQDestroy (h : Heap ListElement) (q : Option MsgQ) :
    Option (MsqQErrType × List Freed × Heap ListElement × Option MsgQ) := do
  let q ← q
  let (_, freed, h₁, _) ← linkedListDestroy h q.msgList
  some (.success, freed, h₁, none)

/-- `msg_q_snd`. `malloc` says whether the allocation of the element succeeds. -/
def msgQSnd (h : Heap ListElement) (q : Option MsgQ) (msgObj : Option DataPtr)
    (dealloc : Option DeallocFunc) (malloc : Bool) :
    Option (MsqQErrType × Heap ListElement × Option MsgQ) :=
  match q, msgObj with
  | none, _ => some (.invalidHandle, h, none)
  | some q, none => some (.invalidParameter, h, some q)
  | some q, some obj =>
      if q.unblocked then some (.unavailableResource, h, some q)
      else do
        let (err, h₁, list) ← linkedListAdd h q.msgList (some obj) dealloc malloc
        some (convertLinkedListErrType err, h₁, some { q with msgList := list })

/-- `msg_q_rcv` from the test of the `while` on: it waits, or it removes a message. -/
def msgQRcvLoop (h : Heap ListElement) (q : MsgQ) :
    Option (Option (MsqQErrType × Option DataPtr) × Heap ListElement × Option MsgQ) :=
  if linkedListEmpty q.msgList ≠ 0 ∧ q.unblocked = false then some (none, h, some q)
  else do
    let (err, obj, h₁, list) ← linkedListRemove h q.msgList true
    some (some (convertLinkedListErrType err, obj), h₁, some { q with msgList := list })

/-- `msg_q_rcv`: what it returns, or `none` when it waits. `msgObj` says whether there is an output
parameter. -/
def msgQRcv (h : Heap ListElement) (q : Option MsgQ) (msgObj : Bool) :
    Option (Option (MsqQErrType × Option DataPtr) × Heap ListElement × Option MsgQ) :=
  match q with
  | none => some (some (.invalidHandle, none), h, none)
  | some q =>
      if msgObj then
        if q.unblocked then some (some (.unavailableResource, none), h, some q)
        else msgQRcvLoop h q
      else some (some (.invalidParameter, none), h, some q)

/-- `msg_q_flush`. -/
def msgQFlush (h : Heap ListElement) (q : Option MsgQ) :
    Option (MsqQErrType × List Freed × Heap ListElement × Option MsgQ) :=
  match q with
  | none => some (.invalidHandle, [], h, none)
  | some q => do
      let (err, freed, h₁, list) ← linkedListFlush h q.msgList
      some (convertLinkedListErrType err, freed, h₁, some { q with msgList := list })

/-- `msg_q_unblock`. -/
def msgQUnblock (q : Option MsgQ) : MsqQErrType × Option MsgQ :=
  match q with
  | none => (.invalidHandle, none)
  | some q =>
      if q.unblocked then (.unavailableResource, some q)
      else (.success, some { q with unblocked := true })

/-! ### What the functions do -/

section
variable {h : Heap ListElement} {q : Option MsgQ} {cells : List Held}

/-- A send fails and changes nothing, or the message is added at the head. -/
theorem msgQSnd_cases (hlist : ∀ q', q = some q' → ∃ l, q'.msgList = some l ∧ l.Holds h cells)
    (msgObj : Option DataPtr) (dealloc : Option DeallocFunc) (malloc : Bool) :
    (∃ err, msgQSnd h q msgObj dealloc malloc = some (err, h, q) ∧ err ≠ .success) ∨
    ∃ q' obj h' l', q = some q' ∧ q'.unblocked = false ∧ msgObj = some obj ∧
      msgQSnd h q msgObj dealloc malloc
        = some (.success, h', some { q' with msgList := some l' }) ∧
      l'.Holds h' ((h.cells.length, obj, dealloc) :: cells) ∧
      h'.cells.length = h.cells.length + 1 := by
  unfold msgQSnd
  cases q with
  | none => exact Or.inl ⟨_, rfl, by simp⟩
  | some q =>
      obtain ⟨list, unblocked⟩ := q
      obtain ⟨l, rfl, hholds⟩ := hlist _ rfl
      cases msgObj with
      | none => exact Or.inl ⟨_, rfl, by simp⟩
      | some obj =>
          cases unblocked with
          | true => exact Or.inl ⟨_, rfl, by simp⟩
          | false =>
              cases malloc with
              | false => exact Or.inl ⟨_, rfl, by simp [convertLinkedListErrType]⟩
              | true =>
                  obtain ⟨h', l', hadd, hholds', hlen, -⟩ := linkedListAdd_eq hholds obj dealloc
                  refine Or.inr ⟨_, obj, h', l', rfl, rfl, rfl, ?_, hholds', hlen⟩
                  dsimp only
                  rw [if_neg (by simp), hadd]
                  rfl

/-- A receiver waits, or it finds nothing in a queue that is unblocked, or it takes the message at
the tail. -/
theorem msgQRcvLoop_cases {q : MsgQ} {l : ListState} (hl : q.msgList = some l)
    (hholds : l.Holds h cells) :
    msgQRcvLoop h q = some (none, h, some q) ∨
    msgQRcvLoop h q = some (some (.unavailableResource, none), h, some q) ∨
    ∃ rest c h' l', cells = rest ++ [c] ∧ l.pTail = some c.1 ∧
      msgQRcvLoop h q
        = some (some (.success, some c.2.1), h', some { q with msgList := some l' }) ∧
      l'.Holds h' rest ∧ h'.cells.length = h.cells.length := by
  obtain ⟨list, unblocked⟩ := q
  obtain rfl : list = some l := hl
  unfold msgQRcvLoop
  dsimp only
  rw [linkedListEmpty_eq hholds]
  rcases List.eq_nil_or_concat cells with rfl | ⟨rest, c, rfl⟩
  · rw [if_pos rfl]
    cases unblocked with
    | false => exact Or.inl (if_pos (by simp))
    | true =>
        rw [if_neg (by simp), linkedListRemove_nil hholds]
        exact Or.inr (Or.inl rfl)
  · rw [List.concat_eq_append] at hholds ⊢
    obtain ⟨h', l', hremove, hholds', hlen⟩ := linkedListRemove_eq hholds
    rw [if_neg (by simp), hremove]
    exact Or.inr (Or.inr ⟨rest, c, h', l', rfl, hholds.tail_eq, rfl, hholds', hlen⟩)

/-- A flush frees every message. -/
theorem msgQFlush_eq {q : MsgQ} {l : ListState} (hl : q.msgList = some l)
    (hholds : l.Holds h cells) :
    ∃ h', msgQFlush h (some q) = some (.success, cells.map Held.freed, h',
        some { q with msgList := some linkedListInit }) ∧ h'.cells.length = h.cells.length := by
  obtain ⟨h', hflush, hlen⟩ := linkedListFlush_eq hholds
  refine ⟨h', ?_, hlen⟩
  unfold msgQFlush
  dsimp only
  rw [hl, hflush]
  rfl

/-- So does a destroy. -/
theorem msgQDestroy_eq {q : MsgQ} {l : ListState} (hl : q.msgList = some l)
    (hholds : l.Holds h cells) :
    ∃ h', msgQDestroy h (some q) = some (.success, cells.map Held.freed, h', none) ∧
      h'.cells.length = h.cells.length := by
  obtain ⟨h', hflush, hlen⟩ := linkedListFlush_eq hholds
  refine ⟨h', ?_, hlen⟩
  unfold msgQDestroy linkedListDestroy
  rw [Option.bind_eq_bind, Option.bind_some, hl, hflush]
  rfl

end

/-! ### The system -/

/-- One entry of the history. `freed` is the freeing of an element by a flush or a destroy. -/
inductive MsgQEvent where
  | accepted (c : Held)
  | received (elem : Ptr) (obj : DataPtr)
  | freed (f : Freed)
  | unblocked
  deriving DecidableEq, Repr

/-- One queue: the handle of its users, the receivers that wait, and whether a call has accessed
an element that was not live. -/
structure MsgQSystem where
  heap : Heap ListElement
  q : Option MsgQ
  waiting : Nat
  faulted : Bool
  log : List MsgQEvent

/-- The calls of the users, and the return of a receiver from `pthread_cond_wait`. -/
inductive MsgQLabel where
  | snd (msgObj : Option DataPtr) (dealloc : Option DeallocFunc) (malloc : Bool)
  | rcv (msgObj : Bool)
  | woken
  | flush
  | unblock
  | destroy
  deriving DecidableEq, Repr

namespace MsgQEvent

/-- The accepted message. -/
def accepted? : MsgQEvent → Option Held
  | .accepted c => some c
  | _ => none

/-- The received message. -/
def received? : MsgQEvent → Option (Ptr × DataPtr)
  | .received elem obj => some (elem, obj)
  | _ => none

/-- The freed element. -/
def freed? : MsgQEvent → Option Freed
  | .freed f => some f
  | _ => none

/-- The messages that the history accepts, receives and frees. -/
def accepts (log : List MsgQEvent) : List Held := log.filterMap accepted?

def receives (log : List MsgQEvent) : List (Ptr × DataPtr) := log.filterMap received?

def frees (log : List MsgQEvent) : List Freed := log.filterMap freed?

end MsgQEvent

namespace MsgQSystem

open MsgQEvent (accepts receives frees)

/-- A new queue. -/
def init : MsgQSystem := ⟨.empty, some msgQInit, 0, false, []⟩

/-- A call has accessed an element that is not live. -/
def fault (s : MsgQSystem) : MsgQSystem := { s with faulted := true }

/-- The history of a send. The new element is the next cell of the heap. -/
def sent (s : MsgQSystem) (rv : MsqQErrType) (msgObj : Option DataPtr)
    (dealloc : Option DeallocFunc) : List MsgQEvent :=
  match rv, msgObj with
  | .success, some obj => [.accepted (s.heap.cells.length, obj, dealloc)]
  | _, _ => []

/-- The element that a receiver removes. -/
def oldest (s : MsgQSystem) : Option Ptr :=
  s.q.bind fun q => q.msgList.bind ListState.pTail

/-- The history of a receive. -/
def got (s : MsgQSystem) : Option (MsqQErrType × Option DataPtr) → List MsgQEvent
  | some (.success, some obj) => s.oldest.elim [] fun p => [.received p obj]
  | _ => []

/-- The state after a receive, with the number of receivers that wait if it waits and if it
returns. -/
def rcvd (s : MsgQSystem) (waits returns : Nat)
    (r : Option (MsqQErrType × Option DataPtr) × Heap ListElement × Option MsgQ) : MsgQSystem :=
  { s with
    heap := r.2.1, q := r.2.2
    waiting := if r.1 = none then waits else returns
    log := s.log ++ s.got r.1 }

/-- The effect of a call. -/
def call (s : MsgQSystem) : MsgQLabel → MsgQSystem
  | .snd msgObj dealloc malloc =>
      (msgQSnd s.heap s.q msgObj dealloc malloc).elim s.fault fun (rv, heap, q) =>
        { s with heap := heap, q := q, log := s.log ++ s.sent rv msgObj dealloc }
  | .rcv msgObj =>
      (msgQRcv s.heap s.q msgObj).elim s.fault (s.rcvd (s.waiting + 1) s.waiting)
  | .woken =>
      (s.q.bind (msgQRcvLoop s.heap)).elim s.fault (s.rcvd s.waiting (s.waiting - 1))
  | .flush =>
      (msgQFlush s.heap s.q).elim s.fault fun (_, freed, heap, q) =>
        { s with heap := heap, q := q, log := s.log ++ freed.map .freed }
  | .unblock =>
      { s with
        q := (msgQUnblock s.q).2
        log := s.log ++ if (msgQUnblock s.q).1 = .success then [.unblocked] else [] }
  | .destroy =>
      (msgQDestroy s.heap s.q).elim s.fault fun (_, freed, heap, q) =>
        { s with heap := heap, q := q, log := s.log ++ freed.map .freed }

/-- A receiver returns from the wait if there is one. The queue is destroyed once, and not while a
receiver waits. -/
def Enabled (s : MsgQSystem) : MsgQLabel → Prop
  | .woken => s.waiting ≠ 0
  | .destroy => s.q ≠ none ∧ s.waiting = 0
  | _ => True

instance (s : MsgQSystem) : ∀ l, Decidable (s.Enabled l)
  | .woken => inferInstanceAs (Decidable (_ ≠ _))
  | .destroy => inferInstanceAs (Decidable (_ ∧ _))
  | .snd _ _ _ => inferInstanceAs (Decidable True)
  | .rcv _ => inferInstanceAs (Decidable True)
  | .flush => inferInstanceAs (Decidable True)
  | .unblock => inferInstanceAs (Decidable True)

/-- One step. -/
def step (s : MsgQSystem) (l : MsgQLabel) : Option MsgQSystem :=
  if s.Enabled l then some (s.call l) else none

/-- The elements of the list, from head to tail. A destroyed queue has none. -/
def Queued (s : MsgQSystem) (ps : List Ptr) : Prop :=
  match s.q with
  | none => ps = []
  | some q => ∃ l, q.msgList = some l ∧ l.Linked s.heap ps

/-- What happens to the messages of a queue. No call follows a pointer to nowhere (`noFault`). The
accepted messages are different elements, and each one is in the queue, or was received once, or was
freed once (`settled`). The queue holds the latest of them, and they are received in the order in
which they were accepted (`order`). What is freed is freed with the `dealloc` function that it came
with, and nothing is accepted after the queue was unblocked. -/
structure Conserves (s : MsgQSystem) : Prop where
  noFault : s.faulted = false
  different : ((accepts s.log).map Prod.fst).Nodup
  settled : ∃ queued, s.Queued queued ∧ queued.reverse <:+ (accepts s.log).map Prod.fst ∧
    ∀ c ∈ accepts s.log, ((receives s.log).map Prod.fst).count c.1
      + ((frees s.log).map Freed.elem).count c.1 + queued.count c.1 = 1
  order : (receives s.log).Sublist ((accepts s.log).map fun c => (c.1, c.2.1))
  deallocated : ∀ f ∈ frees s.log, ∃ c ∈ accepts s.log, f = c.freed
  refused : LastUse (fun _ => True) (fun e => e.accepted?.isSome) .unblocked s.log

/-! ### The messages that have left the queue -/

/-- The history against the messages that have left the queue, oldest first, and the ones that are
in it, from head to tail. -/
structure Account (log : List MsgQEvent) (gone cells : List Held) : Prop where
  accepted : accepts log = gone ++ cells.reverse
  different : ((accepts log).map Prod.fst).Nodup
  received : (receives log).Sublist (gone.map fun c => (c.1, c.2.1))
  left : ((receives log).map Prod.fst ++ (frees log).map Freed.elem).Perm (gone.map Prod.fst)
  deallocated : ∀ f ∈ frees log, ∃ c ∈ gone, f = c.freed

namespace Account

variable {log : List MsgQEvent} {gone cells : List Held} {c : Held}

theorem nil : Account [] [] [] where
  accepted := rfl
  different := List.nodup_nil
  received := .slnil
  left := .nil
  deallocated := fun f hf => by cases hf

/-- A send is accepted. -/
theorem accept (h : Account log gone cells) (hfresh : c.1 ∉ (accepts log).map Prod.fst) :
    Account (log ++ [.accepted c]) gone (c :: cells) := by
  have haccepts : accepts (log ++ [.accepted c]) = accepts log ++ [c] := List.filterMap_append
  have hreceives : receives (log ++ [.accepted c]) = receives log := by
    simp [receives, MsgQEvent.received?]
  have hfrees : frees (log ++ [.accepted c]) = frees log := by
    simp [frees, MsgQEvent.freed?]
  refine ⟨?_, ?_, hreceives ▸ h.received, ?_, hfrees ▸ h.deallocated⟩
  · rw [haccepts, h.accepted, List.reverse_cons, List.append_assoc]
  · rw [haccepts, List.map_append, List.map_singleton]
    exact List.nodup_append.mpr ⟨h.different, by simp, fun a ha b hb => by
      rw [List.mem_singleton.mp hb]
      rintro rfl
      exact hfresh ha⟩
  · rw [hreceives, hfrees]
    exact h.left

/-- The message at the tail is received. -/
theorem receive (h : Account log gone (cells ++ [c])) :
    Account (log ++ [.received c.1 c.2.1]) (gone ++ [c]) cells := by
  have haccepts : accepts (log ++ [.received c.1 c.2.1]) = accepts log := by
    simp [accepts, MsgQEvent.accepted?]
  have hreceives : receives (log ++ [.received c.1 c.2.1]) = receives log ++ [(c.1, c.2.1)] :=
    List.filterMap_append
  have hfrees : frees (log ++ [.received c.1 c.2.1]) = frees log := by
    simp [frees, MsgQEvent.freed?]
  refine ⟨?_, haccepts ▸ h.different, ?_, ?_, fun f hf => ?_⟩
  · rw [haccepts, h.accepted, List.reverse_append, List.append_assoc]
    rfl
  · rw [hreceives, List.map_append, List.map_singleton]
    exact h.received.append (.refl _)
  · rw [hreceives, hfrees, List.map_append, List.map_append, List.append_assoc]
    exact ((List.perm_append_comm.append_left _).trans (List.append_assoc _ _ _ ▸ .refl _)).trans
      (h.left.append_right _)
  · obtain ⟨c', hc', heq⟩ := h.deallocated f (hfrees ▸ hf)
    exact ⟨c', List.mem_append_left _ hc', heq⟩

/-- All messages of the queue are freed. -/
theorem free (h : Account log gone cells) :
    Account (log ++ (cells.map Held.freed).map .freed) (gone ++ cells.reverse) [] := by
  have haccepts : accepts (log ++ (cells.map Held.freed).map .freed) = accepts log := by
    simp [accepts, MsgQEvent.accepted?]
  have hreceives : receives (log ++ (cells.map Held.freed).map .freed) = receives log := by
    simp [receives, MsgQEvent.received?]
  have hfrees : frees (log ++ (cells.map Held.freed).map .freed)
      = frees log ++ cells.map Held.freed := by
    unfold frees
    rw [List.filterMap_append, List.filterMap_map]
    exact congrArg _ List.filterMap_some
  refine ⟨?_, haccepts ▸ h.different, ?_, ?_, fun f hf => ?_⟩
  · rw [haccepts, h.accepted, List.reverse_nil, List.append_nil]
  · rw [hreceives, List.map_append]
    exact h.received.trans (List.sublist_append_left _ _)
  · have helems : (cells.map Held.freed).map Freed.elem = cells.map Prod.fst := by
      rw [List.map_map]
      rfl
    rw [hreceives, hfrees, List.map_append, List.map_append, helems, ← List.append_assoc,
      List.map_reverse]
    exact h.left.append (List.reverse_perm _).symm
  · rw [hfrees, List.mem_append, List.mem_map] at hf
    rcases hf with hf | ⟨c, hc, rfl⟩
    · obtain ⟨c, hc, heq⟩ := h.deallocated f hf
      exact ⟨c, List.mem_append_left _ hc, heq⟩
    · exact ⟨c, List.mem_append_right _ (List.mem_reverse.mpr hc), rfl⟩

/-- The unblocking of the queue moves no message. -/
theorem unblock (h : Account log gone cells) : Account (log ++ [.unblocked]) gone cells := by
  have haccepts : accepts (log ++ [.unblocked]) = accepts log := by
    simp [accepts, MsgQEvent.accepted?]
  have hreceives : receives (log ++ [.unblocked]) = receives log := by
    simp [receives, MsgQEvent.received?]
  have hfrees : frees (log ++ [.unblocked]) = frees log := by
    simp [frees, MsgQEvent.freed?]
  refine ⟨?_, haccepts ▸ h.different, hreceives ▸ h.received, ?_, hfrees ▸ h.deallocated⟩
  · rw [haccepts, h.accepted]
  · rw [hreceives, hfrees]
    exact h.left

/-- Every accepted message is received, freed or in the queue, and one of them only. -/
theorem count_eq_one (h : Account log gone cells) (hc : c ∈ accepts log) :
    ((receives log).map Prod.fst).count c.1 + ((frees log).map Freed.elem).count c.1
      + (cells.map Prod.fst).count c.1 = 1 := by
  have hone := List.count_eq_one_of_mem h.different (List.mem_map_of_mem hc)
  rw [h.accepted, List.map_append, List.count_append, List.map_reverse, List.count_reverse] at hone
  rw [← hone, ← h.left.count_eq, List.count_append]

end Account

/-! ### The steps -/

/-- What every step keeps. -/
structure Kept (s : MsgQSystem) (gone cells : List Held) : Prop where
  noFault : s.faulted = false
  list : ∀ q, s.q = some q → ∃ l, q.msgList = some l ∧ l.Holds s.heap cells
  destroyed : s.q = none → cells = [] ∧ s.waiting = 0
  account : Account s.log gone cells
  fresh : ∀ c ∈ accepts s.log, c.1 < s.heap.cells.length
  refused : LastUse (fun _ => True) (fun e => e.accepted?.isSome) .unblocked s.log
  unblocked : .unblocked ∈ s.log → ∀ q, s.q = some q → q.unblocked = true

variable {s : MsgQSystem} {gone cells : List Held}

theorem kept_init : init.Kept [] [] where
  noFault := rfl
  list := fun q hq => by
    cases hq
    exact ⟨_, rfl, holds_init _⟩
  destroyed := fun _ => ⟨rfl, rfl⟩
  account := .nil
  fresh := fun c hc => by cases hc
  refused := lastUse_nil
  unblocked := fun hmem => by cases hmem

theorem Kept.conserves (h : s.Kept gone cells) : s.Conserves where
  noFault := h.noFault
  different := h.account.different
  settled := by
    refine ⟨cells.map Prod.fst, ?_, ?_, fun c hc => h.account.count_eq_one hc⟩
    · unfold Queued
      cases hq : s.q with
      | none => exact congrArg _ (h.destroyed hq).1
      | some q =>
          obtain ⟨l, hl, hholds⟩ := h.list q hq
          exact ⟨l, hl, hholds.linked⟩
    · rw [h.account.accepted, List.map_append, List.map_reverse]
      exact List.suffix_append _ _
  order := by
    refine h.account.received.trans ?_
    rw [h.account.accepted, List.map_append]
    exact List.sublist_append_left _ _
  deallocated := fun f hf => by
    obtain ⟨c, hc, heq⟩ := h.account.deallocated f hf
    refine ⟨c, ?_, heq⟩
    rw [h.account.accepted]
    exact List.mem_append_left _ hc
  refused := h.refused

/-- A step that moves no message. -/
theorem Kept.idle (h : s.Kept gone cells) {t : MsgQSystem} (hheap : t.heap = s.heap)
    (hq : t.q = s.q) (hwaiting : s.q = none → t.waiting = s.waiting)
    (hfaulted : t.faulted = s.faulted) (hlog : t.log = s.log) : t.Kept gone cells := by
  obtain ⟨heap, q, waiting, faulted, log⟩ := t
  subst hheap hq hfaulted hlog
  exact ⟨h.noFault, h.list, fun hnone => ⟨(h.destroyed hnone).1,
    (hwaiting hnone).trans (h.destroyed hnone).2⟩, h.account, h.fresh, h.refused, h.unblocked⟩

/-- The messages of the queue in another heap, and more entries of the history. -/
theorem Kept.next (h : s.Kept gone cells) {t : MsgQSystem} {gone' cells' : List Held}
    (es : List MsgQEvent) (hfaulted : t.faulted = s.faulted) (hlog : t.log = s.log ++ es)
    (hlist : ∀ q, t.q = some q → (∃ l, q.msgList = some l ∧ l.Holds t.heap cells') ∧
      ∃ q', s.q = some q' ∧ q.unblocked = q'.unblocked)
    (hdestroyed : t.q = none → cells' = [] ∧ t.waiting = 0) (haccount : Account t.log gone' cells')
    (hlen : s.heap.cells.length ≤ t.heap.cells.length)
    (hnew : ∀ c, .accepted c ∈ es → c.1 < t.heap.cells.length ∧ .unblocked ∉ s.log)
    (hes : .unblocked ∉ es) : t.Kept gone' cells' where
  noFault := hfaulted.trans h.noFault
  list := fun q hq => (hlist q hq).1
  destroyed := hdestroyed
  account := haccount
  fresh := fun c hc => by
    rw [hlog, accepts, List.filterMap_append, List.mem_append] at hc
    rcases hc with hc | hc
    · exact Nat.lt_of_lt_of_le (h.fresh c hc) hlen
    · obtain ⟨e, he, heq⟩ := List.mem_filterMap.mp hc
      -- an accepted cell is one of the new heap
      cases e with
      | accepted c' =>
          cases heq
          exact (hnew c he).1
      | received elem obj => cases heq
      | freed f => cases heq
      | unblocked => cases heq
  refused := by
    rw [hlog]
    by_cases hmem : .unblocked ∈ s.log
    · -- nothing is accepted any more
      refine h.refused.append fun e he => ⟨?_, fun heq => hes (heq ▸ he)⟩
      cases e with
      | accepted c => exact absurd hmem (hnew c he).2
      | received elem obj => rfl
      | freed f => rfl
      | unblocked => rfl
    · intro before after heq
      refine absurd ?_ hmem
      have hin : .unblocked ∈ s.log ++ es := by simp [heq]
      exact (List.mem_append.mp hin).resolve_right hes
  unblocked := fun hmem q hq => by
    obtain ⟨-, q', hq', hunblocked⟩ := hlist q hq
    rw [hlog] at hmem
    rw [hunblocked]
    exact h.unblocked ((List.mem_append.mp hmem).resolve_right hes) q' hq'

/-- A send. -/
theorem Kept.snd (h : s.Kept gone cells) (msgObj : Option DataPtr) (dealloc : Option DeallocFunc)
    (malloc : Bool) : ∃ cells', (s.call (.snd msgObj dealloc malloc)).Kept gone cells' := by
  unfold call
  dsimp only
  rcases msgQSnd_cases h.list msgObj dealloc malloc with ⟨err, heq, herr⟩ |
    ⟨q, obj, heap, l, hq, hblocked, rfl, heq, hholds, hlen⟩ <;> rw [heq]
  · refine ⟨cells, h.idle rfl rfl (fun _ => rfl) rfl ?_⟩
    have hsent : s.sent err msgObj dealloc = [] := by
      unfold sent
      cases err with
      | success => exact absurd rfl herr
      | _ => rfl
    show s.log ++ s.sent err msgObj dealloc = s.log
    rw [hsent, List.append_nil]
  · have hfresh : s.heap.cells.length ∉ (accepts s.log).map Prod.fst := fun hmem => by
      obtain ⟨c, hc, hlast⟩ := List.mem_map.mp hmem
      exact absurd (h.fresh c hc) (hlast ▸ Nat.lt_irrefl _)
    have hnot : .unblocked ∉ s.log := fun hmem => by
      rw [h.unblocked hmem q hq] at hblocked
      cases hblocked
    refine ⟨_, h.next [.accepted (s.heap.cells.length, obj, dealloc)] rfl rfl
      (fun q' hq' => ?_) (fun hnone => by cases hnone) (h.account.accept hfresh)
      (hlen ▸ Nat.le_succ _) (fun c hc => ?_) (by simp)⟩
    · cases hq'
      exact ⟨⟨l, rfl, hholds⟩, q, hq, rfl⟩
    · cases List.mem_singleton.mp hc
      exact ⟨hlen ▸ Nat.lt_succ_self _, hnot⟩

/-- A receiver that runs the loop. -/
theorem Kept.rcvLoop (h : s.Kept gone cells) {q : MsgQ} (hq : s.q = some q)
    (waits returns : Nat) :
    ∃ gone' cells', Kept ((msgQRcvLoop s.heap q).elim s.fault (s.rcvd waits returns))
      gone' cells' := by
  have hwaiting : ∀ n, s.q = none → n = s.waiting := fun n hnone => by
    rw [hq] at hnone
    cases hnone
  obtain ⟨l, hl, hholds⟩ := h.list q hq
  rcases msgQRcvLoop_cases hl hholds with heq | heq |
    ⟨rest, c, heap, l', rfl, htail, heq, hholds', hlen⟩ <;> rw [heq]
  · exact ⟨gone, cells, h.idle rfl hq.symm (hwaiting _) rfl (List.append_nil _)⟩
  · exact ⟨gone, cells, h.idle rfl hq.symm (hwaiting _) rfl (List.append_nil _)⟩
  · have hgot : s.got (some (.success, some c.2.1)) = [.received c.1 c.2.1] := by
      unfold got oldest
      rw [hq, Option.bind_some, hl, Option.bind_some, htail]
      rfl
    refine ⟨gone ++ [c], rest, h.next [.received c.1 c.2.1] rfl
      (congrArg (s.log ++ ·) hgot) (fun q' hq' => ?_) (fun hnone => by cases hnone) ?_
      (Nat.le_of_eq hlen.symm) (fun c' hc' => by simp at hc') (by simp)⟩
    · cases hq'
      exact ⟨⟨l', rfl, hholds'⟩, q, hq, rfl⟩
    · show Account (s.log ++ s.got _) _ _
      rw [hgot]
      exact h.account.receive

/-- A receive. -/
theorem Kept.rcv (h : s.Kept gone cells) (msgObj : Bool) :
    ∃ gone' cells', (s.call (.rcv msgObj)).Kept gone' cells' := by
  unfold call msgQRcv
  dsimp only
  cases hq : s.q with
  | none => exact ⟨gone, cells, h.idle rfl hq.symm (fun _ => rfl) rfl (List.append_nil _)⟩
  | some q =>
      dsimp only
      by_cases hobj : msgObj = true
      · rw [if_pos hobj]
        by_cases hblocked : q.unblocked = true
        · rw [if_pos hblocked]
          exact ⟨gone, cells, h.idle rfl hq.symm (fun _ => rfl) rfl (List.append_nil _)⟩
        · rw [if_neg hblocked]
          exact h.rcvLoop hq _ _
      · rw [if_neg hobj]
        exact ⟨gone, cells, h.idle rfl hq.symm (fun _ => rfl) rfl (List.append_nil _)⟩

/-- The messages of the queue are freed, by a flush or a destroy. -/
theorem Kept.free (h : s.Kept gone cells) {t : MsgQSystem} (hfaulted : t.faulted = s.faulted)
    (hlog : t.log = s.log ++ (cells.map Held.freed).map .freed)
    (hlen : t.heap.cells.length = s.heap.cells.length)
    (hlist : ∀ q, t.q = some q → q.msgList = some linkedListInit ∧
      ∃ q', s.q = some q' ∧ q.unblocked = q'.unblocked)
    (hwaiting : t.q = none → t.waiting = 0) : t.Kept (gone ++ cells.reverse) [] := by
  refine h.next _ hfaulted hlog (fun q hq => ?_) (fun hnone => ⟨rfl, hwaiting hnone⟩)
    (hlog ▸ h.account.free) (Nat.le_of_eq hlen.symm) (fun c hc => by simp at hc) (by simp)
  obtain ⟨hl, hbefore⟩ := hlist q hq
  exact ⟨⟨_, hl, holds_init _⟩, hbefore⟩

theorem Kept.flush (h : s.Kept gone cells) :
    ∃ gone' cells', (s.call .flush).Kept gone' cells' := by
  unfold call
  dsimp only
  cases hq : s.q with
  | none => exact ⟨gone, cells, h.idle rfl hq.symm (fun _ => rfl) rfl (List.append_nil _)⟩
  | some q =>
      obtain ⟨l, hl, hholds⟩ := h.list q hq
      obtain ⟨heap, heq, hlen⟩ := msgQFlush_eq hl hholds
      rw [heq]
      refine ⟨_, _, h.free rfl rfl hlen (fun q' hq' => ?_) fun hnone => by cases hnone⟩
      cases hq'
      exact ⟨rfl, q, hq, rfl⟩

theorem Kept.destroy (h : s.Kept gone cells) (hq : s.q ≠ none) (hwaiting : s.waiting = 0) :
    ∃ gone' cells', (s.call .destroy).Kept gone' cells' := by
  obtain ⟨q, hq⟩ := Option.ne_none_iff_exists'.mp hq
  obtain ⟨l, hl, hholds⟩ := h.list q hq
  obtain ⟨heap, heq, hlen⟩ := msgQDestroy_eq hl hholds
  unfold call
  dsimp only
  rw [hq, heq]
  exact ⟨_, _, h.free rfl rfl hlen (fun q' hq' => by cases hq') fun _ => hwaiting⟩

theorem Kept.unblock (h : s.Kept gone cells) : (s.call .unblock).Kept gone cells := by
  unfold call msgQUnblock
  dsimp only
  cases hq : s.q with
  | none => exact h.idle rfl hq.symm (fun _ => rfl) rfl (List.append_nil _)
  | some q =>
      obtain ⟨list, unblocked⟩ := q
      cases unblocked with
      | true => exact h.idle rfl hq.symm (fun _ => rfl) rfl (List.append_nil _)
      | false =>
          refine ⟨h.noFault, fun q' hq' => ?_, (fun hnone => by cases hnone), h.account.unblock,
            fun c hc => h.fresh c ?_, ?_, fun _ q' hq' => ?_⟩
          · cases hq'
            exact h.list ⟨list, false⟩ hq
          · simpa [accepts, MsgQEvent.accepted?] using hc
          · exact h.refused.concat (fun hmem => nomatch h.unblocked hmem _ hq) fun _ => trivial
          · cases hq'
            rfl

/-- Every step keeps the account. -/
theorem Kept.step {t : MsgQSystem} {l : MsgQLabel} (h : s.Kept gone cells)
    (ht : s.step l = some t) : ∃ gone' cells', t.Kept gone' cells' := by
  unfold MsgQSystem.step at ht
  split at ht
  · rename_i henabled
    cases ht
    cases l with
    | snd msgObj dealloc malloc =>
        obtain ⟨cells', hkept⟩ := h.snd msgObj dealloc malloc
        exact ⟨gone, cells', hkept⟩
    | rcv msgObj => exact h.rcv msgObj
    | woken =>
        unfold call
        dsimp only
        cases hq : s.q with
        | none => exact absurd (h.destroyed hq).2 henabled
        | some q => exact h.rcvLoop hq _ _
    | flush => exact h.flush
    | unblock => exact ⟨gone, cells, h.unblock⟩
    | destroy => exact h.destroy henabled.1 henabled.2
  · cases ht

/-- Whatever is called and in whatever order, the messages of the queue are conserved.

That is, the two chains of the list mirror each other, the messages are received in the order in
which they were accepted, and each of them is received, or freed, or still in the queue, and only
one of these. After `msg_q_unblock` nothing is accepted. -/
theorem along_conserves (labels : List MsgQLabel) : Along step Conserves init labels := by
  refine along_of_invariant (I := fun s => ∃ gone cells, s.Kept gone cells) ?_ ?_ labels init
    ⟨[], [], kept_init⟩
  · rintro s ⟨gone, cells, h⟩
    exact h.conserves
  · rintro s l t ⟨gone, cells, h⟩ ht
    exact h.step ht

/-- Two messages are sent, the older one is received and the other one is freed with the queue. -/
example : (run step init [.snd (some 7) none true, .snd (some 8) (some 1) true, .rcv true,
    .destroy]).map (fun s => (receives s.log, frees s.log))
      = some ([(0, 7)], [⟨1, some (1, 8)⟩]) := by decide

end MsgQSystem

end LocHal.Util
