import Mathlib.Data.Finset.Card
import Mathlib.Logic.Function.Basic
import LocHal.Lib.LabelledRun
import LocHal.Lib.PackedSlots

/-!
# `LocHal.Core.LocApiBase`: the adapters and the open modem interface

`LocApiBase` keeps its adapters in the first slots of an array. A new adapter and a removed one
post a `LocOpenMsg`, and an engine restart posts a `LocSsrMsg`. Their processing opens the
interface with the events of the adapters that are there then. The removal of the only adapter
closes the interface at once, and `updateEvtMask` opens it at once.

`FollowsAdapters` is the property: with nothing queued, the interface is open for the registered
adapters, or closed when there are none. `along_openForAdapters` is the half that holds in every
run, and `along_followsAdapters_iff` gives the exact condition for both. `Packed` connects the
array to the set of the registered adapters, and `step_cases` says what a step can do.

The delivery of events to the adapters is left out.

The open interface is modelled by the last call to it, an open with a mask or a close. The
registered adapters are a set beside the array. It is not in the source: it is what `addAdapter` and
`removeAdapter` are meant to keep, and `Packed` says that the array has the same elements, without
gaps and without repetition. A step that would register more adapters than the array has slots is
not taken.
-/

set_option autoImplicit false

namespace LocHal.Core

open LabelledRun PackedSlots

/-- `MAX_ADAPTERS`. -/
def maxAdapters : Nat := 10

/-- `loc_registration_mask_status`. -/
inductive RegistrationMask where
  | enabled
  | disabled
  | set
  deriving DecidableEq, Repr

/-- The mask that `LocAdapterBase::updateEvtMask` writes. -/
def LocAdapterBase.updateEvtMask (mEvtMask event : BitVec 64) : RegistrationMask → BitVec 64
  | .enabled => mEvtMask ||| event
  | .disabled => mEvtMask &&& ~~~event
  | .set => event

/-- The calls of the virtual functions `open` and `close`. -/
inductive ModemCall where
  | opened (mask : BitVec 64)
  | close
  deriving DecidableEq, Repr

/-- The messages that `LocApiBase` posts. -/
inductive LocApiMsg where
  | LocOpenMsg
  | LocSsrMsg
  deriving DecidableEq, Repr

/-- A `LocApiBase` with the queue of its messages. `evtMask` gives the `mEvtMask` of each adapter,
and `lastCall` is the last call of `open` or `close`. `registered` is not in the code: the adapters
that have been added and not removed. -/
structure LocApiBase (α : Type) where
  mLocAdapters : List (Option α)
  mExcludedMask : BitVec 64
  evtMask : α → BitVec 64
  queue : List LocApiMsg
  lastCall : Option ModemCall
  registered : Finset α

/-- The calls, and the processing of a message. `construct` is the constructor of an adapter, which
sets its mask. -/
inductive LocApiLabel (α : Type) where
  | construct (adapter : α) (mEvtMask : BitVec 64)
  | addAdapter (adapter : α)
  | removeAdapter (adapter : α)
  | updateEvtMask (adapter : α) (event : BitVec 64) (status : RegistrationMask)
  | handleEngineUpEvent
  | proc
  deriving DecidableEq, Repr

namespace LocApiBase

variable {α : Type} [DecidableEq α]

/-- The constructor. -/
def new (mExcludedMask : BitVec 64) (evtMask : α → BitVec 64) : LocApiBase α where
  mLocAdapters := List.replicate maxAdapters none
  mExcludedMask := mExcludedMask
  evtMask := evtMask
  queue := []
  lastCall := none
  registered := ∅

/-- The loop of `getEvtMask`. -/
def maskLoop (evtMask : α → BitVec 64) : BitVec 64 → List (Option α) → BitVec 64
  | mask, some adapter :: rest => maskLoop evtMask (mask ||| evtMask adapter) rest
  | mask, none :: _ => mask
  | mask, [] => mask

/-- `LocApiBase::getEvtMask`. -/
def getEvtMask (s : LocApiBase α) : BitVec 64 :=
  maskLoop s.evtMask 0 s.mLocAdapters &&& ~~~s.mExcludedMask

/-- The loop of `addAdapter` from a slot on: the slots after it, when a free one is taken. -/
def addLoop (adapter : α) : List (Option α) → Option (List (Option α))
  | [] => none
  | none :: rest => some (some adapter :: rest)
  | some a :: rest =>
      if a = adapter then none else (addLoop adapter rest).map fun slots => some a :: slots

/-- `LocApiBase::addAdapter`. -/
def addAdapter (s : LocApiBase α) (adapter : α) : LocApiBase α :=
  match addLoop adapter s.mLocAdapters with
  | none => s
  | some slots => { s with mLocAdapters := slots, queue := s.queue ++ [.LocOpenMsg] }

/-- The loop of `removeAdapter` from slot `i` on: the slots after it and the new `i`, when the
adapter is found. The slot behind the new `i` is free, so that the loop ends there. -/
def removeLoop (adapter : α) : Nat → List (Option α) → Option (List (Option α) × Nat)
  | _, [] => none
  | _, none :: _ => none
  | i, some a :: rest =>
      if a = adapter then
        -- the last used slot behind this one
        let used := (rest.takeWhile Option.isSome).length
        some (moveLast (none :: rest) used, i + used)
      else (removeLoop adapter (i + 1) rest).map fun r => (some a :: r.1, r.2)

/-- `LocApiBase::removeAdapter`. -/
def removeAdapter (s : LocApiBase α) (adapter : α) : LocApiBase α :=
  match removeLoop adapter 0 s.mLocAdapters with
  | none => s
  | some (slots, i) =>
      -- the array is empty now
      if i = 0 then { s with mLocAdapters := slots, lastCall := some .close }
      else { s with mLocAdapters := slots, queue := s.queue ++ [.LocOpenMsg] }

/-- `LocApiBase::updateEvtMask`. -/
def updateEvtMask (s : LocApiBase α) : LocApiBase α :=
  { s with lastCall := some (.opened s.getEvtMask) }

/-- `LocAdapterBase::updateEvtMask`, with its call of `LocApiBase`. -/
def updateAdapterMask (s : LocApiBase α) (adapter : α) (event : BitVec 64)
    (status : RegistrationMask) : LocApiBase α :=
  let mask := LocAdapterBase.updateEvtMask (s.evtMask adapter) event status
  { s with evtMask := Function.update s.evtMask adapter mask }.updateEvtMask

/-- `LocApiBase::handleEngineUpEvent`. -/
def handleEngineUpEvent (s : LocApiBase α) : LocApiBase α :=
  { s with queue := s.queue ++ [.LocSsrMsg] }

/-- `proc` of a message. -/
def procMsg (s : LocApiBase α) : LocApiMsg → LocApiBase α
  | .LocOpenMsg => { s with lastCall := some (.opened s.getEvtMask) }
  | .LocSsrMsg =>
      let s := { s with lastCall := some .close }
      { s with lastCall := some (.opened s.getEvtMask) }

/-- One step. At most `MAX_ADAPTERS` adapters are registered, and a registered adapter is not
constructed again. -/
def step (s : LocApiBase α) : LocApiLabel α → Option (LocApiBase α)
  | .construct adapter mEvtMask =>
      if adapter ∈ s.registered then none
      else some { s with evtMask := Function.update s.evtMask adapter mEvtMask }
  | .addAdapter adapter =>
      if (insert adapter s.registered).card ≤ maxAdapters then
        some { s.addAdapter adapter with registered := insert adapter s.registered }
      else none
  | .removeAdapter adapter =>
      some { s.removeAdapter adapter with registered := s.registered.erase adapter }
  | .updateEvtMask adapter event status => some (s.updateAdapterMask adapter event status)
  | .handleEngineUpEvent => some s.handleEngineUpEvent
  | .proc =>
      match s.queue with
      | [] => none
      | msg :: queue => some ({ s with queue := queue }.procMsg msg)

/-- The last call has opened the interface for the events of the registered adapters, without the
excluded ones. -/
def OpenForAdapters (s : LocApiBase α) : Prop :=
  ∃ mask, s.lastCall = some (.opened mask) ∧ ∀ i, mask.getLsbD i = true ↔
    (∃ adapter ∈ s.registered, (s.evtMask adapter).getLsbD i = true) ∧
      s.mExcludedMask.getLsbD i = false

/-- The interface has not been opened, or the last call has closed it. -/
def Closed (s : LocApiBase α) : Prop := s.lastCall = none ∨ s.lastCall = some .close

/-- With nothing queued and an adapter registered, the interface is open for the adapters. -/
def OpenWhenRegistered (s : LocApiBase α) : Prop :=
  s.queue = [] → s.registered ≠ ∅ → s.OpenForAdapters

/-- With nothing queued and no adapter registered, the interface is closed. -/
def ClosedWhenEmpty (s : LocApiBase α) : Prop := s.queue = [] → s.registered = ∅ → s.Closed

/-- With nothing queued, the interface is open exactly for the registered adapters: open with their
events when there are some (`OpenWhenRegistered`), and closed when there are none
(`ClosedWhenEmpty`). The first half holds in every run. -/
def FollowsAdapters (s : LocApiBase α) : Prop := s.OpenWhenRegistered ∧ s.ClosedWhenEmpty

/-- The condition on one step. A message that opens the interface does not ask whether an adapter is
left, so an adapter that is removed before its message is processed leaves the interface open. This
matters only for the last message, as a later one would come with its own condition. `updateEvtMask`
opens the interface at once, in the same way. -/
def OpensForSome (s : LocApiBase α) : LocApiLabel α → Prop
  | .proc => s.queue.length = 1 → s.registered ≠ ∅
  | .updateEvtMask _ _ _ => s.queue = [] → s.registered ≠ ∅
  | _ => True

/-- The array holds the registered adapters, each of them once, in its first slots. The empty slots
are behind them, so a loop that goes from the front may stop at the first empty one. -/
def Packed (mLocAdapters : List (Option α)) (registered : Finset α) : Prop :=
  ∃ l n, mLocAdapters = slots l n ∧ l.length + n = maxAdapters ∧ l.Nodup ∧
    ∀ adapter, adapter ∈ l ↔ adapter ∈ registered

/-! ### The loops over the array -/

variable {s t : LocApiBase α} {adapter : α} {l : List α} {n : Nat}

omit [DecidableEq α] in
/-- One bit of the mask that the loop computes. -/
theorem getLsbD_maskLoop (evtMask : α → BitVec 64) (i : Nat) (l : List α) (n : Nat) :
    ∀ mask, (maskLoop evtMask mask (slots l n)).getLsbD i =
      (mask.getLsbD i || l.any fun adapter => (evtMask adapter).getLsbD i) := by
  induction l with
  | nil =>
      intro mask
      cases n <;> simp [maskLoop, slots, List.replicate_succ]
  | cons a l ih =>
      intro mask
      rw [slots_cons, maskLoop, ih, BitVec.getLsbD_or, List.any_cons, Bool.or_assoc]

theorem addLoop_of_mem (h : adapter ∈ l) : addLoop adapter (slots l n) = none := by
  induction l with
  | nil => cases h
  | cons a l ih =>
      rw [slots_cons, addLoop]
      by_cases ha : a = adapter
      · rw [if_pos ha]
      · have hmem : adapter ∈ l := (List.mem_cons.mp h).resolve_left (Ne.symm ha)
        rw [if_neg ha, ih hmem, Option.map_none]

theorem addLoop_of_notMem (h : adapter ∉ l) :
    addLoop adapter (slots l (n + 1)) = some (slots (l ++ [adapter]) n) := by
  induction l with
  | nil => rfl
  | cons a l ih =>
      have ha : a ≠ adapter := fun ha => h (ha ▸ List.mem_cons_self)
      have hl : adapter ∉ l := fun hl => h (List.mem_cons_of_mem a hl)
      rw [slots_cons, addLoop, if_neg ha, ih hl, Option.map_some, List.cons_append, slots_cons]

theorem addLoop_of_full (h : adapter ∉ l) : addLoop adapter (slots l 0) = none := by
  induction l with
  | nil => rfl
  | cons a l ih =>
      have ha : a ≠ adapter := fun ha => h (ha ▸ List.mem_cons_self)
      have hl : adapter ∉ l := fun hl => h (List.mem_cons_of_mem a hl)
      rw [slots_cons, addLoop, if_neg ha, ih hl, Option.map_none]

theorem removeLoop_of_notMem (h : adapter ∉ l) :
    ∀ i, removeLoop adapter i (slots l n) = none := by
  induction l with
  | nil =>
      intro i
      cases n <;> rfl
  | cons a l ih =>
      intro i
      have ha : a ≠ adapter := fun ha => h (ha ▸ List.mem_cons_self)
      have hl : adapter ∉ l := fun hl => h (List.mem_cons_of_mem a hl)
      rw [slots_cons, removeLoop, if_neg ha, ih hl, Option.map_none]

/-- The adapter is taken out and one more slot is free; `i` ends at the last used slot. -/
theorem removeLoop_of_mem (h : adapter ∈ l) :
    ∀ i, ∃ l' : List α, l'.Perm (l.erase adapter) ∧
      removeLoop adapter i (slots l n) = some (slots l' (n + 1), i + (l.length - 1)) := by
  induction l with
  | nil => cases h
  | cons a l ih =>
      intro i
      rw [slots_cons, removeLoop]
      by_cases ha : a = adapter
      · -- the last entry moves into the slot of the adapter
        obtain ⟨l', hperm, hmove⟩ := moveLast_slots l n
        refine ⟨l', ?_, ?_⟩
        · rw [ha, List.erase_cons_head]
          exact hperm
        · rw [if_pos ha]
          dsimp only
          rw [length_takeWhile_slots, hmove]
          rfl
      · have hmem : adapter ∈ l := (List.mem_cons.mp h).resolve_left (Ne.symm ha)
        obtain ⟨l', hperm, hloop⟩ := ih hmem (i + 1)
        refine ⟨a :: l', ?_, ?_⟩
        · rw [List.erase_cons_tail (by simpa using ha)]
          exact hperm.cons a
        · have hpos := List.length_pos_of_mem hmem
          rw [if_neg ha, hloop, Option.map_some, slots_cons, List.length_cons]
          congr 2
          omega

/-! ### The loops on a packed array -/

section
variable {array : List (Option α)} {registered : Finset α}

theorem card_registered (hnodup : l.Nodup) (hmem : ∀ adapter, adapter ∈ l ↔ adapter ∈ registered) :
    registered.card = l.length := by
  rw [← List.toFinset_card_of_nodup hnodup]
  congr 1
  ext a
  rw [List.mem_toFinset, hmem]

theorem addLoop_of_registered (h : Packed array registered) (hadapter : adapter ∈ registered) :
    addLoop adapter array = none := by
  obtain ⟨l, n, rfl, -, -, hmem⟩ := h
  exact addLoop_of_mem ((hmem adapter).mpr hadapter)

/-- A new adapter takes a free slot. -/
theorem addLoop_of_room (h : Packed array registered) (hadapter : adapter ∉ registered)
    (hroom : registered.card < maxAdapters) :
    ∃ array', addLoop adapter array = some array' ∧ Packed array' (insert adapter registered) := by
  obtain ⟨l, n, rfl, hlength, hnodup, hmem⟩ := h
  have hl : adapter ∉ l := fun hl => hadapter ((hmem adapter).mp hl)
  -- the registered adapters are not more than the slots
  rw [card_registered hnodup hmem] at hroom
  obtain ⟨m, rfl⟩ : ∃ m, n = m + 1 := ⟨n - 1, by omega⟩
  refine ⟨slots (l ++ [adapter]) m, addLoop_of_notMem hl, l ++ [adapter], m, rfl, ?_, ?_, ?_⟩
  · rw [List.length_append, List.length_singleton]
    omega
  · exact (List.perm_append_singleton adapter l).nodup_iff.mpr (List.nodup_cons.mpr ⟨hl, hnodup⟩)
  · intro a
    rw [List.mem_append, List.mem_singleton, hmem, Finset.mem_insert, or_comm]

/-- There is no slot for an adapter more than `MAX_ADAPTERS`. -/
theorem addLoop_of_no_room (h : Packed array registered) (hadapter : adapter ∉ registered)
    (hroom : maxAdapters ≤ registered.card) : addLoop adapter array = none := by
  obtain ⟨l, n, rfl, hlength, hnodup, hmem⟩ := h
  rw [card_registered hnodup hmem] at hroom
  obtain rfl : n = 0 := by omega
  exact addLoop_of_full fun hl => hadapter ((hmem adapter).mp hl)

/-- A registered adapter is taken out. The index ends at 0 when it was the only one. -/
theorem removeLoop_of_registered (h : Packed array registered) (hadapter : adapter ∈ registered) :
    ∃ array' i, removeLoop adapter 0 array = some (array', i) ∧
      Packed array' (registered.erase adapter) ∧ (i = 0 ↔ registered.erase adapter = ∅) := by
  obtain ⟨l, n, rfl, hlength, hnodup, hmem⟩ := h
  have hl : adapter ∈ l := (hmem adapter).mpr hadapter
  have hpos := List.length_pos_of_mem hl
  obtain ⟨l', hperm, hloop⟩ := removeLoop_of_mem (n := n) hl 0
  have hlength' : l'.length = l.length - 1 := hperm.length_eq.trans (List.length_erase_of_mem hl)
  have hmem' : ∀ a, a ∈ l' ↔ a ∈ registered.erase adapter := by
    intro a
    rw [hperm.mem_iff, hnodup.mem_erase_iff, hmem, Finset.mem_erase]
  refine ⟨_, _, hloop, ⟨l', n + 1, rfl, by omega, ?_, hmem'⟩, ?_⟩
  · exact hperm.nodup_iff.mpr (hnodup.erase adapter)
  · -- the last used slot is the first one exactly when nothing is left
    rw [Nat.zero_add, ← hlength', List.length_eq_zero_iff, Finset.eq_empty_iff_forall_notMem,
      List.eq_nil_iff_forall_not_mem]
    simp only [hmem']

theorem removeLoop_of_not_registered (h : Packed array registered)
    (hadapter : adapter ∉ registered) : removeLoop adapter 0 array = none := by
  obtain ⟨l, n, rfl, -, -, hmem⟩ := h
  exact removeLoop_of_notMem (fun hl => hadapter ((hmem adapter).mp hl)) 0

end

/-! ### The operations on a packed array -/

omit [DecidableEq α] in
/-- The mask is the union of the masks of the registered adapters, without the excluded events. -/
theorem getLsbD_getEvtMask (hs : Packed s.mLocAdapters s.registered) (i : Nat) :
    s.getEvtMask.getLsbD i = true ↔
      (∃ adapter ∈ s.registered, (s.evtMask adapter).getLsbD i = true) ∧
        s.mExcludedMask.getLsbD i = false := by
  obtain ⟨l, n, hslots, -, -, hmem⟩ := hs
  have hzero : (0 : BitVec 64).getLsbD i = false := BitVec.getLsbD_zero
  unfold getEvtMask
  rw [hslots, BitVec.getLsbD_and, BitVec.getLsbD_not, getLsbD_maskLoop, hzero, Bool.false_or,
    Bool.and_eq_true, List.any_eq_true, Bool.and_eq_true]
  simp only [hmem, Bool.not_eq_true', decide_eq_true_eq]
  constructor
  · rintro ⟨hany, -, hexcluded⟩
    exact ⟨hany, hexcluded⟩
  · rintro ⟨⟨adapter, hadapter, hbit⟩, hexcluded⟩
    exact ⟨⟨adapter, hadapter, hbit⟩, BitVec.lt_of_getLsbD hbit, hexcluded⟩

omit [DecidableEq α] in
/-- An opening call leaves the interface open for the registered adapters. -/
theorem openForAdapters_of_lastCall (hs : Packed s.mLocAdapters s.registered)
    (hcall : s.lastCall = some (.opened s.getEvtMask)) : s.OpenForAdapters :=
  ⟨s.getEvtMask, hcall, getLsbD_getEvtMask hs⟩

/-- A known adapter is not added again. A new one is added and a message is posted. -/
theorem addAdapter_cases (hs : Packed s.mLocAdapters s.registered)
    (hroom : (insert adapter s.registered).card ≤ maxAdapters) :
    (adapter ∈ s.registered ∧ s.addAdapter adapter = s) ∨
      (∃ array, Packed array (insert adapter s.registered) ∧
        s.addAdapter adapter =
          { s with mLocAdapters := array, queue := s.queue ++ [.LocOpenMsg] }) := by
  by_cases hadapter : adapter ∈ s.registered
  · refine Or.inl ⟨hadapter, ?_⟩
    unfold addAdapter
    rw [addLoop_of_registered hs hadapter]
  · rw [Finset.card_insert_of_notMem hadapter] at hroom
    obtain ⟨array, hloop, harray⟩ := addLoop_of_room hs hadapter hroom
    refine Or.inr ⟨array, harray, ?_⟩
    unfold addAdapter
    rw [hloop]

/-- An unknown adapter is not removed. With the last one the interface is closed, and after another
one a message is posted. -/
theorem removeAdapter_cases (hs : Packed s.mLocAdapters s.registered) (adapter : α) :
    (adapter ∉ s.registered ∧ s.removeAdapter adapter = s) ∨
      (∃ array, Packed array (s.registered.erase adapter) ∧
        (s.registered.erase adapter = ∅ ∧
            s.removeAdapter adapter =
              { s with mLocAdapters := array, lastCall := some .close } ∨
          s.registered.erase adapter ≠ ∅ ∧
            s.removeAdapter adapter =
              { s with mLocAdapters := array, queue := s.queue ++ [.LocOpenMsg] })) := by
  unfold removeAdapter
  by_cases hadapter : adapter ∈ s.registered
  · obtain ⟨array, i, hloop, harray, hlast⟩ := removeLoop_of_registered hs hadapter
    refine Or.inr ⟨array, harray, ?_⟩
    rw [hloop]
    dsimp only
    by_cases hempty : s.registered.erase adapter = ∅
    · exact Or.inl ⟨hempty, if_pos (hlast.mpr hempty)⟩
    · exact Or.inr ⟨hempty, if_neg fun h => hempty (hlast.mp h)⟩
  · refine Or.inl ⟨hadapter, ?_⟩
    rw [removeLoop_of_not_registered hs hadapter]

omit [DecidableEq α] in
theorem packed_new (mExcludedMask : BitVec 64) (evtMask : α → BitVec 64) :
    Packed (new mExcludedMask evtMask).mLocAdapters (new mExcludedMask evtMask).registered := by
  refine ⟨[], maxAdapters, rfl, rfl, List.nodup_nil, ?_⟩
  intro adapter
  simp [new]

/-! ### One step -/

/-- What a step does to the interface and to what is queued. -/
inductive StepEffect (s t : LocApiBase α) : Prop where
  /-- An adapter that is not registered gets its mask, or nothing happens. -/
  | quiet (hqueue : t.queue = s.queue) (hregistered : t.registered = s.registered)
      (hcall : t.lastCall = s.lastCall) (hexcluded : t.mExcludedMask = s.mExcludedMask)
      (hmasks : ∀ adapter ∈ s.registered, t.evtMask adapter = s.evtMask adapter)
  /-- A message is posted. -/
  | posted (hqueue : t.queue ≠ [])
  /-- The last adapter is removed. -/
  | closed (hregistered : t.registered = ∅) (hcall : t.lastCall = some .close)

omit [DecidableEq α] in
theorem StepEffect.refl (s : LocApiBase α) : StepEffect s s :=
  .quiet rfl rfl rfl rfl fun _ _ => rfl

omit [DecidableEq α] in
theorem queue_ne_nil_of_posted {queue : List LocApiMsg} {msg : LocApiMsg}
    (h : s.queue = queue ++ [msg]) : s.queue ≠ [] := by
  simp [h]

/-- Every step keeps the array packed. A step that makes an opening call is one of the condition,
and any other step has an effect of `StepEffect`. -/
theorem step_cases {label : LocApiLabel α} (hs : Packed s.mLocAdapters s.registered)
    (ht : s.step label = some t) :
    Packed t.mLocAdapters t.registered ∧
      (OpensForSome s label ∧ StepEffect s t ∨
        t.lastCall = some (.opened t.getEvtMask) ∧
          (OpensForSome s label ↔ (t.queue = [] → t.registered ≠ ∅))) := by
  cases label with
  | construct adapter mEvtMask =>
      rw [step] at ht
      split at ht
      case isTrue => cases ht
      cases ht
      refine ⟨hs, Or.inl ⟨trivial, .quiet rfl rfl rfl rfl ?_⟩⟩
      intro a ha
      have hne : a ≠ adapter := ne_of_mem_of_not_mem ha ‹_›
      exact Function.update_of_ne hne _ _
  | addAdapter adapter =>
      rw [step] at ht
      split at ht
      case isFalse => cases ht
      cases ht
      -- an adapter that is there is not added again
      rcases addAdapter_cases hs ‹_› with ⟨hadapter, hadd⟩ | ⟨array, harray, hadd⟩
      · rw [hadd, Finset.insert_eq_of_mem hadapter]
        exact ⟨hs, Or.inl ⟨trivial, .refl s⟩⟩
      · rw [hadd]
        exact ⟨harray, Or.inl ⟨trivial, .posted (queue_ne_nil_of_posted rfl)⟩⟩
  | removeAdapter adapter =>
      cases ht
      -- the last adapter closes the API, the others let it be opened anew
      rcases removeAdapter_cases hs adapter with
        ⟨hadapter, hremove⟩ | ⟨array, harray, ⟨hempty, hremove⟩ | ⟨-, hremove⟩⟩
      · rw [hremove, Finset.erase_eq_of_notMem hadapter]
        exact ⟨hs, Or.inl ⟨trivial, .refl s⟩⟩
      · rw [hremove]
        exact ⟨harray, Or.inl ⟨trivial, .closed hempty rfl⟩⟩
      · rw [hremove]
        exact ⟨harray, Or.inl ⟨trivial, .posted (queue_ne_nil_of_posted rfl)⟩⟩
  | updateEvtMask adapter event status =>
      cases ht
      exact ⟨hs, Or.inr ⟨rfl, Iff.rfl⟩⟩
  | handleEngineUpEvent =>
      cases ht
      exact ⟨hs, Or.inl ⟨trivial, .posted (queue_ne_nil_of_posted rfl)⟩⟩
  | proc =>
      rw [step] at ht
      split at ht
      case h_1 => cases ht
      rename_i msg queue hqueue
      cases ht
      have hlength : s.queue.length = 1 ↔ queue = [] := by
        rw [hqueue, List.length_cons, Nat.add_eq_right, List.length_eq_zero_iff]
      -- both messages end with an opening call
      cases msg with
      | LocOpenMsg => exact ⟨hs, Or.inr ⟨rfl, imp_congr_left hlength⟩⟩
      | LocSsrMsg => exact ⟨hs, Or.inr ⟨rfl, imp_congr_left hlength⟩⟩

omit [DecidableEq α] in
/-- The interface stays as it is asked for in a quiet step. -/
theorem OpenForAdapters.congr (hopen : s.OpenForAdapters)
    (hregistered : t.registered = s.registered) (hcall : t.lastCall = s.lastCall)
    (hexcluded : t.mExcludedMask = s.mExcludedMask)
    (hmasks : ∀ adapter ∈ s.registered, t.evtMask adapter = s.evtMask adapter) :
    t.OpenForAdapters := by
  obtain ⟨mask, hopened, hmask⟩ := hopen
  refine ⟨mask, hcall.trans hopened, ?_⟩
  intro i
  rw [hmask, hregistered, hexcluded]
  apply and_congr_left
  intro _
  constructor
  · rintro ⟨a, ha, hbit⟩
    exact ⟨a, ha, (congrArg (BitVec.getLsbD · i) (hmasks a ha)).trans hbit⟩
  · rintro ⟨a, ha, hbit⟩
    exact ⟨a, ha, (congrArg (BitVec.getLsbD · i) (hmasks a ha)).symm.trans hbit⟩

/-- The open half is kept by every step. -/
theorem openWhenRegistered_step {label : LocApiLabel α} (hs : Packed s.mLocAdapters s.registered)
    (hopen : s.OpenWhenRegistered) (ht : s.step label = some t) : t.OpenWhenRegistered := by
  intro hqueue hregistered
  obtain ⟨hpacked, ⟨-, heffect⟩ | ⟨hcall, -⟩⟩ := step_cases hs ht
  · cases heffect with
    | quiet hqueue' hregistered' hcall hexcluded hmasks =>
        have hopen' := hopen (hqueue' ▸ hqueue) (hregistered' ▸ hregistered)
        exact hopen'.congr hregistered' hcall hexcluded hmasks
    | posted hposted => exact absurd hqueue hposted
    | closed hempty _ => exact absurd hempty hregistered
  · exact openForAdapters_of_lastCall hpacked hcall

/-- The closed half is kept exactly under the condition. -/
theorem closedWhenEmpty_step_iff {label : LocApiLabel α}
    (hs : Packed s.mLocAdapters s.registered) (hclosed : s.ClosedWhenEmpty)
    (ht : s.step label = some t) : t.ClosedWhenEmpty ↔ OpensForSome s label := by
  obtain ⟨-, ⟨hok, heffect⟩ | ⟨hcall, hok⟩⟩ := step_cases hs ht
  · refine ⟨fun _ => hok, fun _ => ?_⟩
    intro hqueue hempty
    cases heffect with
    | quiet hqueue' hregistered' hcall _ _ =>
        unfold Closed
        rw [hcall]
        exact hclosed (hqueue' ▸ hqueue) (hregistered' ▸ hempty)
    | posted hposted => exact absurd hqueue hposted
    | closed _ hcall => exact Or.inr hcall
  · -- an open interface is not closed, so an adapter has to be there
    have hopened : ¬ t.Closed := by simp [Closed, hcall]
    rw [hok]
    constructor
    · intro h hqueue hempty
      exact hopened (h hqueue hempty)
    · intro h hqueue hempty
      exact absurd hempty (h hqueue)

/-! ### Runs -/

/-- In every run the interface is open for the registered adapters, whenever there is one and no
message is queued. -/
theorem along_openForAdapters (mExcludedMask : BitVec 64) (evtMask : α → BitVec 64)
    (labels : List (LocApiLabel α)) :
    Along step OpenWhenRegistered (new mExcludedMask evtMask) labels := by
  refine along_of_invariant
    (I := fun s => Packed s.mLocAdapters s.registered ∧ s.OpenWhenRegistered) ?_ ?_ labels _ ?_
  · rintro s ⟨-, hopen⟩
    exact hopen
  · rintro s label t ⟨hpacked, hopen⟩ ht
    exact ⟨(step_cases hpacked ht).1, openWhenRegistered_step hpacked hopen ht⟩
  · refine ⟨packed_new mExcludedMask evtMask, ?_⟩
    intro _ hregistered
    exact absurd rfl hregistered

/-- From any excluded events and for every sequence of calls and processed messages: with nothing
queued the interface is open exactly for the registered adapters, all along the run, if and only if
every step meets the condition. -/
theorem along_followsAdapters_iff (mExcludedMask : BitVec 64) (evtMask : α → BitVec 64)
    (labels : List (LocApiLabel α)) :
    Along step FollowsAdapters (new mExcludedMask evtMask) labels ↔
      Guarded step OpensForSome (new mExcludedMask evtMask) labels := by
  refine along_iff_guarded
    (I := fun s => Packed s.mLocAdapters s.registered ∧ s.FollowsAdapters) ?_ ?_ ?_ ?_ labels _ ?_
  · rintro s ⟨-, hs⟩
    exact hs
  · rintro s label t ⟨hpacked, hopen, hclosed⟩ hok ht
    exact ⟨(step_cases hpacked ht).1, openWhenRegistered_step hpacked hopen ht,
      (closedWhenEmpty_step_iff hpacked hclosed ht).mpr hok⟩
  · rintro s label t ⟨hpacked, -, hclosed⟩ ht ⟨-, hclosed'⟩
    exact (closedWhenEmpty_step_iff hpacked hclosed ht).mp hclosed'
  · rintro s label ⟨-, -⟩ hnone
    cases label with
    | proc =>
        intro hlength
        rw [step] at hnone
        split at hnone
        · rename_i hqueue
          simp [hqueue] at hlength
        · cases hnone
    | updateEvtMask adapter event status => cases hnone
    | _ => trivial
  · refine ⟨packed_new mExcludedMask evtMask, ?_, ?_⟩
    · intro _ hregistered
      exact absurd rfl hregistered
    · intro _ _
      exact Or.inl rfl

/-- An adapter comes and goes before its message is processed. -/
def addedAndRemoved : List (LocApiLabel Nat) := [.addAdapter 0, .removeAdapter 0, .proc]

/-- The message opens the interface although no adapter is left. -/
theorem not_along_addedAndRemoved :
    ¬ Along step FollowsAdapters (new 0 fun _ : Nat => 1) addedAndRemoved := by
  rw [along_followsAdapters_iff]
  intro h
  have hproc := ((h.2 _ rfl).2 _ rfl).1
  exact hproc rfl rfl

end LocApiBase

end LocHal.Core
